import MilterManager.Tool.TestInvariant

/-!
# What the test server sends

Whatever a milter replies to the test server, and whenever: the commands that it is given are those
of one session, in the order of `cb_continue`, `tool/milter-test-server.c:409`, without those that
it does not want, and the recipients, the headers and the body are those of the mail.
-/

namespace MilterManager.Tool

open MilterManager.Base MilterManager.Core MilterManager.Server

/-! ## The operations -/

section Operations

variable {options : Options} {live : Prop} {remaining : List ContextState} {call : Handlers}
variable {post : List Packet → TestServer → Prop} {packet : Packet}

theorem flushBody_triple
    (hstop : ∀ past s, Inv options False remaining past s → post past s) :
    Proc.Triple (fun past s => Session options s.data.option past ∧
        (s.context.writer = .started → ∀ queue,
          post (past ++ [packetOf s.context (.body [])]) (written (.body []) queue s)))
      flushBody fun _ => post := by
  rintro past s ⟨hsession, hwritten⟩
  have hwrite := writePacket_cases (.body (s.context.body.take Children.milterChunkSize))
    (show ContextState.body.interrupts = false from rfl)
    { s with context := { s.context with bodyResponseQueue := s.context.bodyResponseQueue ++ [0] } }
  rcases hwrite with ⟨hwriter, hsent⟩ | ⟨t, hfailed, hdata, hwriter⟩
  · have hflush : flushBody s = ⟨true, written (.body [])
        (Children.incrementProcessBodyCount (s.context.bodyResponseQueue ++ [0])) s,
        [packetOf s.context (.body [])]⟩ := by
      simp [flushBody, hsent, written, packetOf, bufferOf, packetState, List.length_take]
    rw [hflush]
    exact hwritten hwriter _
  · have hflush : flushBody s = ⟨false, t, []⟩ := by
      simp [flushBody, hfailed]
    rw [hflush, List.append_nil]
    apply hstop
    apply Inv.of_stopped
    · rw [hdata]
      exact hsession
    · exact hwriter

/-- What the context does for a command that the milter wants, where nothing it gives to a handler
itself starts to write again. -/
theorem sendOrSkip_triple {pre : List Packet → TestServer → Prop} {state : ContextState}
    {reply : Reply} {skips : Context → Bool} {send : Program Bool}
    (hcall : ∀ reply, Proc.Keeps (Inv options False remaining) (call reply))
    (hstop : ∀ past s, Inv options False remaining past s → post past s)
    (hsend : Proc.Triple pre send fun _ => post) :
    Proc.Triple (fun past s => pre past s ∧ Session options s.data.option past ∧
        (s.context.writer = .started → skips s.context = false))
      (sendOrSkip call state reply skips send) fun _ => post := by
  apply triple_contextOf
  intro context
  apply Proc.Triple.ite
  · intro hskips
    refine Proc.Triple.bind (fun _ => Inv options False remaining) ?_ fun _ => ?_
    · apply Proc.Triple.update
      rintro past s ⟨⟨-, hsession, hwanted⟩, rfl⟩
      refine Inv.of_stopped hsession ?_
      intro hwriter
      rw [hwanted hwriter] at hskips
      cases hskips
    · exact Proc.Triple.bind _ (hcall reply) fun _ => Proc.Triple.pure hstop
  · intro _
    exact hsend.weaken fun past s h => h.1.1

theorem give_triple (hcall : ∀ reply, Proc.Keeps (Inv options False remaining) (call reply))
    (hstop : ∀ past s, Inv options False remaining past s → post past s)
    (hpacket : (packetState packet).interrupts = false) :
    Proc.Triple (fun past s => Session options s.data.option past ∧
        (s.context.writer = .started → skips (packetState packet) s.context = false ∧
          ∀ queue, post (past ++ [packetOf s.context packet]) (written packet queue s)))
      (give call packet) fun _ => post := by
  by_cases hbody : ∃ chunk, packet = .body chunk
  · rcases hbody with ⟨chunk, rfl⟩
    have hflush : Proc.Triple (fun past s => Session options s.data.option past ∧
        (s.context.writer = .started → ∀ queue,
          post (past ++ [packetOf s.context (.body chunk)]) (written (.body chunk) queue s)))
        (do
          updateContext fun context => { context with body := context.body ++ chunk }
          flushBody : Program Bool) fun _ => post := by
      refine Proc.Triple.bind _ (Proc.Triple.update ?_) fun _ => flushBody_triple hstop
      intro past s h
      simpa [written, packetOf, bufferOf, packetState] using h
    apply (sendOrSkip_triple hcall hstop hflush).weaken
    rintro past s ⟨hsession, hwritten⟩
    exact ⟨⟨hsession, fun hwriter => (hwritten hwriter).2⟩, hsession,
      fun hwriter => (hwritten hwriter).1⟩
  · have hgive : give call packet = contextGive call packet (packetState packet)
        (skips (packetState packet)) := by
      cases packet
      case body chunk => exact absurd ⟨chunk, rfl⟩ hbody
      all_goals rfl
    have hwrite : Proc.Triple (fun past s => Session options s.data.option past ∧
        (s.context.writer = .started → ∀ queue,
          post (past ++ [packetOf s.context packet]) (written packet queue s)))
        (writePacket packet (packetState packet)) fun _ => post := by
      rintro past s ⟨hsession, hwritten⟩
      rcases writePacket_cases packet hpacket s with ⟨hwriter, hsent⟩ | ⟨t, hfailed, hdata, hwriter⟩
      · rw [hsent]
        have := hwritten hwriter s.context.bodyResponseQueue
        cases packet
        case body chunk => exact absurd ⟨chunk, rfl⟩ hbody
        all_goals exact this
      · rw [hfailed, List.append_nil]
        apply hstop
        apply Inv.of_stopped
        · rw [hdata]
          exact hsession
        · exact hwriter
    rw [hgive]
    apply (sendOrSkip_triple hcall hstop hwrite).weaken
    rintro past s ⟨hsession, hwritten⟩
    exact ⟨⟨hsession, fun hwriter => (hwritten hwriter).2⟩, hsession,
      fun hwriter => (hwritten hwriter).1⟩

end Operations

/-! ## The lines of a switch -/

section Lines

variable {options : Options} {live : Prop} {remaining : List ContextState} {past : List Packet}
variable {s : TestServer} {call : Handlers} {state : ContextState} {lines : List Line}

/-- A milter is not given a command that it does not want. -/
theorem Open.skips_eq_false {o : MilterOption} (h : Open options remaining past s)
    (ho : s.data.option = some o) (hwants : wants o state) : skips state s.context = false := by
  rcases h.option o ho with ⟨c, hc, hversion, hflags⟩
  exact skips_eq_false_of_wants hc hversion hflags hwants

/-- What is left is sent by the lines that follow. -/
structure At (options : Options) (lines : List Line) (s : TestServer) : Prop where
  option : s.data.option.isSome
  follows : ∀ state, Line.send state ∈ lines → follows s.context.state state
  ahead : ∀ state, Ahead options s state → Line.send state ∈ lines

theorem At.tail {line : Line} (h : At options (line :: lines) s)
    (hline : ∀ state, line = .send state → packets options s.data state = []) :
    At options lines s where
  option := h.option
  follows state hmem := h.follows state (List.mem_cons_of_mem _ hmem)
  ahead state hahead := by
    rcases List.mem_cons.mp (h.ahead state hahead) with heq | hmem
    · exact absurd (hline state heq.symm) hahead.1
    · exact hmem

/-- The data of a message that is over do not matter. -/
theorem Inv.prepare (h : Inv options live remaining past s) (state : ContextState) :
    Inv options live remaining past { s with context := prepare state s.context } := by
  cases state
  case envelopeFrom =>
    refine ⟨h.session, fun hwriter => ?_⟩
    have hopen := h.started hwriter
    exact ⟨hopen.1, { hopen.2 with
      sentEndOfMessage := rfl
      processBodyCount := rfl
      order := fun hfits => { hopen.2.order hfits with } }⟩
  all_goals exact h

theorem prepare_fields (state : ContextState) (context : Context) :
    (prepare state context).state = context.state ∧
      (prepare state context).writer = context.writer ∧
      (prepare state context).option = context.option := by
  cases state <;> exact ⟨rfl, rfl, rfl⟩

theorem send_triple
    (hcall : ∀ reply, Proc.Keeps (Inv options False remaining) (call reply))
    (hsorted : ∀ other, Line.send other ∈ lines → rank state ≤ rank other) :
    Proc.Triple (fun past s => Inv options live remaining past s ∧
        (s.context.writer = .started → At options (.send state :: lines) s))
      (send options call state) fun sent past s => Inv options live remaining past s ∧
        (sent = false → s.context.writer = .started → At options lines s) := by
  rintro past s ⟨hinv, hat⟩
  have hprepared := prepare_fields state s.context
  rw [send_apply]
  cases hpackets : packets options s.data state with
  | nil =>
      refine ⟨by simpa using hinv.prepare state, fun _ hwriter => ?_⟩
      have hrest : At options lines s := by
        apply (hat (hprepared.2.1 ▸ hwriter)).tail
        intro other hother
        cases hother
        exact hpackets
      exact ⟨hrest.option, fun other hmem => hprepared.1 ▸ hrest.follows other hmem,
        fun other hahead => hrest.ahead other ⟨hahead.1, hprepared.1 ▸ hahead.2⟩⟩
  | cons packet rest =>
      have hnext := next_of_packets hpackets
      have hgive : Proc.Triple (fun past' s' => past' = past ∧
            s' = { s with context := prepare state s.context })
          (do
            let _ ← give call packet
            updateData (advance packet)
            pure true : Program Bool)
          fun sent past s => Inv options live remaining past s ∧ sent = true := by
        have hkind := hnext.packetState
        refine Proc.Triple.bind (fun _ past s =>
          Inv options live remaining past { s with data := advance packet s.data }) ?_ fun _ => ?_
        · apply (give_triple hcall _ (hkind ▸ hnext.not_interrupts)).weaken
          · rintro _ _ ⟨rfl, rfl⟩
            refine ⟨hinv.session, fun hwriter => ?_⟩
            have hwriter' : s.context.writer = .started := hprepared.2.1 ▸ hwriter
            have hline := hat hwriter'
            have hopen := ((hinv.prepare state).started hwriter).2
            obtain ⟨o, ho⟩ := Option.isSome_iff_exists.mp hline.option
            have hwants : wants o state := by
              have := wants_of_packets_ne_nil (hpackets ▸ List.cons_ne_nil packet rest)
              rwa [effectiveOption, ho, Option.getD_some] at this
            rw [hkind]
            refine ⟨hopen.skips_eq_false ho hwants, fun queue => ?_⟩
            apply (hinv.prepare state).given hwriter hpackets hline.option
            · rw [hprepared.1]
              exact hline.follows state List.mem_cons_self
            · intro other hahead
              have hmem := hline.ahead other ⟨hahead.1, hprepared.1 ▸ hahead.2⟩
              rcases List.mem_cons.mp hmem with heq | hmem
              · cases heq
                exact Nat.le_refl _
              · exact hsorted other hmem
          · intro past s h
            refine Inv.of_stopped ?_ fun hwriter => (h.started hwriter).1
            rw [show ({ s with data := advance packet s.data } : TestServer).data.option =
              s.data.option from advance_option _ _]
            exact h.session
        · refine Proc.Triple.bind (fun _ => Inv options live remaining)
            (Proc.Triple.update fun _ _ h => h) fun _ => ?_
          exact Proc.Triple.pure fun _ _ h => ⟨h, rfl⟩
      have hsent := hgive past _ ⟨rfl, rfl⟩
      refine ⟨hsent.1, fun hfalse => ?_⟩
      rw [hsent.2] at hfalse
      cases hfalse

/-- The command that a line sends. -/
def lineState : Line → Option ContextState
  | .send state => some state
  | .unlessReplied _ => none

theorem mem_lineStates {state : ContextState} :
    state ∈ lines.filterMap lineState ↔ Line.send state ∈ lines := by
  rw [List.mem_filterMap]
  constructor
  · rintro ⟨line, hmem, hline⟩
    cases line with
    | send other =>
        cases hline
        exact hmem
    | unlessReplied other => cases hline
  · exact fun hmem => ⟨_, hmem, rfl⟩

/-- The lines of a switch send what comes first in a session. -/
theorem fallThrough_triple
    (hcall : ∀ reply, Proc.Keeps (Inv options False remaining) (call reply))
    (hsorted : (lines.filterMap lineState).Pairwise fun a b => rank a ≤ rank b) :
    Proc.Triple (fun past s => Inv options live remaining past s ∧
        (s.context.writer = .started → At options lines s))
      (fallThrough options call lines) fun _ => Inv options live remaining := by
  induction lines with
  | nil => exact Proc.Triple.pure fun _ _ h => h.1
  | cons line lines ih =>
      cases line with
      | send state =>
          have hcons := List.pairwise_cons.mp hsorted
          refine Proc.Triple.bind _ (send_triple hcall fun other hmem =>
            hcons.1 other (mem_lineStates.mpr hmem)) fun sent => ?_
          apply Proc.Triple.ite
          · exact fun _ => Proc.Triple.pure fun _ _ h => h.1
          · intro hsent
            exact (ih hcons.2).weaken fun _ _ h => ⟨h.1, h.2 (by simpa using hsent)⟩
      | unlessReplied state =>
          apply Proc.Triple.getState
          intro t
          apply Proc.Triple.ite
          · intro _
            apply (ih hsorted).weaken
            rintro _ _ ⟨⟨hinv, hat⟩, -⟩
            exact ⟨hinv, fun hwriter => (hat hwriter).tail fun _ h => by cases h⟩
          · exact fun _ => Proc.Triple.pure fun _ _ h => h.1.1

theorem At.of_covers (hoption : s.data.option.isSome)
    (hcovers : ∀ other ∈ sessionOrder,
      Tool.follows s.context.state other → other ∈ lines.filterMap lineState)
    (hfollows : ∀ other ∈ lines.filterMap lineState, Tool.follows s.context.state other) :
    At options lines s where
  option := hoption
  follows other hmem := hfollows other (mem_lineStates.mpr hmem)
  ahead other hahead := by
    obtain ⟨packet, rest, hpackets⟩ := List.exists_cons_of_ne_nil hahead.1
    have hnext := next_of_packets hpackets
    exact mem_lineStates.mp
      (hcovers other (mem_sessionOrder hnext.rank_pos hnext.rank_le) hahead.2)

theorem continueLines_sorted (state : ContextState) :
    ((continueLines state).filterMap lineState).Pairwise fun a b => rank a ≤ rank b := by
  cases state <;> decide

theorem transitedLines_sorted (state : ContextState) :
    ((transitedLines state).filterMap lineState).Pairwise fun a b => rank a ≤ rank b := by
  cases state <;> decide

/-- Every command that may come behind a state has a line, and no other. -/
theorem continueLines_cover (state : ContextState) (hstate : state ∈ .negotiate :: sessionOrder)
    (hend : state ≠ .endOfMessage) :
    (∀ other ∈ sessionOrder,
        Tool.follows state other → other ∈ (continueLines state).filterMap lineState) ∧
      ∀ other ∈ (continueLines state).filterMap lineState, Tool.follows state other := by
  cases state <;> revert hstate hend <;> decide

theorem transitedLines_cover (state : ContextState) (hlines : transitedLines state ≠ []) :
    (∀ other ∈ sessionOrder,
        Tool.follows state other → other ∈ (transitedLines state).filterMap lineState) ∧
      ∀ other ∈ (transitedLines state).filterMap lineState, Tool.follows state other := by
  cases state <;> revert hlines <;> decide

theorem transitedLines_eq_nil (hstate : rank state = 0) : transitedLines state = [] := by
  cases state <;> first | rfl | cases hstate

/-- The negotiation is answered before the first command. -/
theorem Open.option_isSome (h : Open options remaining past s)
    (hstate : 0 < rank s.context.state) : s.data.option.isSome := by
  cases hoption : s.data.option with
  | none =>
      have := h.unanswered hoption _ List.mem_cons_self
      omega
  | some o => rfl

end Lines

/-! ## The handlers -/

section Handlers

variable {options : Options} {live : Prop} {remaining : List ContextState} {past : List Packet}
variable {s : TestServer} {call : Handlers} {state : ContextState}

theorem cbContinue_triple
    (hcall : ∀ reply, Proc.Keeps (Inv options False remaining) (call reply)) :
    Proc.Triple (fun past s => Inv options live remaining past s ∧
        (s.context.writer = .started → s.data.option.isSome))
      (cbContinue options call) fun _ => Inv options live remaining := by
  apply triple_contextOf
  intro context
  have hlines : context.state ∈ .negotiate :: sessionOrder → context.state ≠ .endOfMessage →
      Proc.Triple (fun past s => (Inv options live remaining past s ∧
          (s.context.writer = .started → s.data.option.isSome)) ∧ s.context = context)
        (fallThrough options call (continueLines context.state))
        fun _ => Inv options live remaining := by
    intro hstate hend
    apply (fallThrough_triple hcall (continueLines_sorted _)).weaken
    rintro past s ⟨⟨hinv, hoption⟩, rfl⟩
    have hcover := continueLines_cover _ hstate hend
    exact ⟨hinv, fun hwriter => .of_covers (hoption hwriter) hcover.1 hcover.2⟩
  cases hstate : context.state
  case endOfMessage => exact sendQuit_triple.weaken fun _ _ h => h.1.1.closable
  case invalid | start | defineMacro | quit | abort =>
    exact sendAbort_triple.weaken fun _ _ h => h.1.1.closable
  all_goals
    rw [hstate] at hlines
    exact hlines (by decide) (by decide)

theorem cbStateTransited_triple
    (hcall : ∀ reply, Proc.Keeps (Inv options False remaining) (call reply)) :
    Proc.Triple (fun past s => Inv options live remaining past s ∧
        (s.context.writer = .started → s.context.state = state))
      (cbStateTransited options call state) fun _ => Inv options live remaining := by
  by_cases hlines : transitedLines state = []
  · rw [cbStateTransited, hlines]
    exact Proc.Triple.pure fun _ _ h => h.1
  · have hcover := transitedLines_cover state hlines
    apply (fallThrough_triple hcall (transitedLines_sorted state)).weaken
    rintro past s ⟨hinv, hstate⟩
    refine ⟨hinv, fun hwriter => ?_⟩
    have hrank : 0 < rank s.context.state := by
      rw [hstate hwriter]
      by_contra hzero
      exact hlines (transitedLines_eq_nil (Nat.eq_zero_of_not_pos hzero))
    apply At.of_covers ((hinv.started hwriter).2.option_isSome hrank)
    · rw [hstate hwriter]
      exact hcover.1
    · rw [hstate hwriter]
      exact hcover.2

theorem giveUp_triple (success : Bool) :
    Proc.Keeps (Inv options live remaining) (giveUp success) :=
  Proc.Triple.bind _ (sendAbort_triple.weaken fun _ _ h => h.closable) fun _ =>
    Proc.Triple.update fun _ _ h => h.touch

theorem cbRefuse_keeps
    (hcall : ∀ reply, Proc.Keeps (Inv options False remaining) (call reply)) :
    Proc.Keeps (Inv options live remaining) (cbRefuse options call) := by
  apply triple_contextOf
  intro context
  apply Proc.Triple.ite
  · intro hstate
    refine Proc.Triple.bind (fun _ past s => Inv options live remaining past s ∧
      (s.context.writer = .started → s.data.option.isSome)) ?_ fun _ => ?_
    · apply Proc.Triple.update
      rintro past s ⟨hinv, rfl⟩
      have hoption : ∀ data, (removeCurrentRecipient options data).option = data.option := by
        intro data
        rw [removeCurrentRecipient]
        split <;> rfl
      constructor
      · rw [removeCurrentRecipient]
        split
        · exact hinv
        · exact hinv.touch
      · intro hwriter
        rw [hoption]
        exact (hinv.started hwriter).2.option_isSome (by rw [hstate]; decide)
    · apply Proc.Triple.getState
      intro t
      apply Proc.Triple.ite
      · exact fun _ => (giveUp_triple false).weaken fun _ _ h => h.1.1
      · exact fun _ => (cbContinue_triple hcall).weaken fun _ _ h => h.1
  · exact fun _ => (giveUp_triple false).weaken fun _ _ h => h.1

/-- The rest of the body is skipped. -/
theorem Inv.skip (h : Inv options live remaining past s) :
    Inv options live remaining past { s with data := { s.data with
      currentBodyChunk := max s.data.currentBodyChunk s.data.bodyChunks.length } } := by
  refine ⟨h.session, fun hwriter => ?_⟩
  have hopen := (h.started hwriter).2
  refine ⟨(h.started hwriter).1, { hopen with body := ?_, order := fun hfits => ?_ }⟩
  · rcases hopen.body with ⟨sent, hsent, hle, -⟩
    refine ⟨sent, hsent, Nat.le_trans hle (Nat.le_max_left _ _), .inr ?_⟩
    rw [← hopen.chunks]
    exact Nat.le_max_right _ _
  · have hordered := hopen.order hfits
    have hstill : ∀ other, Ahead options { s with data := { s.data with
        currentBodyChunk := max s.data.currentBodyChunk s.data.bodyChunks.length } } other →
        Ahead options s other := by
      rintro other ⟨hpackets, hfollows⟩
      refine ⟨?_, hfollows⟩
      cases other
      case body =>
        exfalso
        apply hpackets
        have hnone : s.data.bodyChunks.drop
            (max s.data.currentBodyChunk s.data.bodyChunks.length) = [] :=
          List.drop_eq_nil_of_le (Nat.le_max_right _ _)
        simp [packets, left, hnone]
      all_goals exact hpackets
    exact { hordered with
      past := fun packet hmem other hother => hordered.past packet hmem other (hstill other hother)
      pending := fun next hmem other hother =>
        hordered.pending next hmem other (hstill other hother) }

theorem cbSkip_triple
    (hcall : ∀ reply, Proc.Keeps (Inv options False remaining) (call reply)) :
    Proc.Triple (fun past s => Inv options live remaining past s ∧
        (s.context.writer = .started → s.data.option.isSome))
      (cbSkip options call) fun _ => Inv options live remaining :=
  Proc.Triple.bind _ (Proc.Triple.update fun _ _ h => ⟨h.1.skip, h.2⟩) fun _ =>
    cbContinue_triple hcall

/-- The option of the context and that of the tool when the negotiation is answered. -/
theorem Open.answer {o c : MilterOption} (h : Open options remaining past s)
    (hsession : Session options s.data.option past) (hnone : s.data.option = none)
    (hversion : c.version = o.version)
    (hflags : ∀ flag, o.step &&& flag = 0#32 → c.step &&& flag = 0#32) :
    Open options remaining past
      { context := { s.context with timeout := none, option := some c }
        data := { s.data with option := some o } } where
  quitted := h.quitted
  sentEndOfMessage := h.sentEndOfMessage
  processBodyCount := h.processBodyCount
  option o' ho' := by
    cases ho'
    exact ⟨c, rfl, hversion, hflags⟩
  unanswered hnone' := by cases hnone'
  uninterrupted := h.uninterrupted
  within := h.within
  recipients := h.recipients
  headers := h.headers
  chunks := h.chunks
  body := h.body
  buffered hbuffer := by
    rcases h.buffered hbuffer with ⟨o', ho', -⟩
    rw [hnone] at ho'
    cases ho'
  order hfits := by
    have hordered := h.order hfits
    have hzero : ∀ packet ∈ past, packetRank packet = 0 := by
      intro packet hmem
      have := h.within packet hmem
      rcases hsession.wanted packet hmem with hrank | hrank | ⟨o', ho', -⟩
      · exact hrank
      · omega
      · rw [hnone] at ho'
        cases ho'
    exact {
      empty := hordered.empty
      sorted := hordered.sorted
      past := fun packet hmem _ _ => by
        rw [hzero packet hmem]
        exact Nat.zero_le _
      pending := fun next hmem _ _ => by
        rw [h.unanswered hnone next (List.mem_cons_of_mem _ hmem)]
        exact Nat.zero_le _ }

/-- What the handler of a reply relies on, while the tool can write. -/
def Ready (options : Options) (remaining : List ContextState) (past : List Packet)
    (s : TestServer) : Reply → Prop
  | .negotiateReply option =>
      (∀ packet ∈ past, packetRank packet ≤ 10) ∧
        (s.data.option = none →
          Open options remaining past { s with data := { s.data with option := some option } })
  | .continue | .skip => Open options remaining past s ∧ s.data.option.isSome
  | _ => Open options remaining past s

theorem cbNegotiateReply_triple (option : MilterOption)
    (hcall : ∀ reply, Proc.Keeps (Inv options False remaining) (call reply)) :
    Proc.Triple (fun past s => Session options s.data.option past ∧
        (s.context.writer = .started →
          live ∧ Ready options remaining past s (.negotiateReply option)))
      (cbNegotiateReply options call option) fun _ => Inv options live remaining := by
  apply Proc.Triple.getState
  intro t
  apply Proc.Triple.ite
  · intro _
    apply sendAbort_triple.weaken
    rintro _ s ⟨⟨hsession, hready⟩, -⟩
    exact ⟨hsession, fun hwriter => (hready hwriter).2.1⟩
  · intro hnone
    refine Proc.Triple.bind (fun _ past s => Inv options live remaining past s ∧
      (s.context.writer = .started → s.data.option.isSome)) ?_ fun _ => cbContinue_triple hcall
    apply Proc.Triple.update
    rintro past s ⟨⟨hsession, hready⟩, rfl⟩
    have hoption : s.data.option = none := by simpa using hnone
    rw [hoption] at hsession
    exact ⟨⟨hsession.of_none _, fun hwriter =>
      ⟨(hready hwriter).1, (hready hwriter).2.2 hoption⟩⟩, fun _ => rfl⟩

/-- The handlers of the tool keep the invariant. -/
theorem handle_triple (reply : Reply)
    (hcall : ∀ reply, Proc.Keeps (Inv options False remaining) (call reply)) :
    Proc.Triple (fun past s => Session options s.data.option past ∧
        (s.context.writer = .started → live ∧ Ready options remaining past s reply))
      (handle options call reply) fun _ => Inv options live remaining := by
  cases reply
  case negotiateReply option => exact cbNegotiateReply_triple option hcall
  case «continue» =>
    apply (cbContinue_triple hcall).weaken
    rintro past s ⟨hsession, hready⟩
    exact ⟨⟨hsession, fun hwriter => ⟨(hready hwriter).1, (hready hwriter).2.1⟩⟩,
      fun hwriter => (hready hwriter).2.2⟩
  case skip =>
    apply (cbSkip_triple hcall).weaken
    rintro past s ⟨hsession, hready⟩
    exact ⟨⟨hsession, fun hwriter => ⟨(hready hwriter).1, (hready hwriter).2.1⟩⟩,
      fun hwriter => (hready hwriter).2.2⟩
  all_goals
    suffices hkeeps : Proc.Keeps (Inv options live remaining) (handle options call _) from
      hkeeps.weaken fun _ _ h => ⟨h.1, h.2⟩
  case replyCode code extendedCode message =>
    exact Proc.Triple.bind _ (Proc.Triple.update fun _ _ h => h.touch) fun _ =>
      cbRefuse_keeps hcall
  case temporaryFailure | reject => exact cbRefuse_keeps hcall
  case accept => exact giveUp_triple true
  case discard => exact giveUp_triple false
  case connectionFailure | shutdown => exact sendAbort_triple.weaken fun _ _ h => h.closable
  case progress => exact Proc.Keeps.pure _
  case quarantine reason => exact Proc.Keeps.update fun _ _ h => h.touch
  all_goals exact updateMail_keeps _

theorem dispatch_keeps (options : Options) (remaining : List ContextState) (depth : Nat)
    (reply : Reply) : Proc.Keeps (Inv options False remaining) (dispatch options depth reply) := by
  induction depth generalizing reply with
  | zero => exact Proc.Keeps.pure _
  | succ depth ih =>
      apply (handle_triple reply ih).weaken
      exact fun _ _ h => ⟨h.session, fun hwriter => (h.started hwriter).1.elim⟩

end Handlers

/-! ## The replies and the flushes -/

section Receive

variable {options : Options} {live : Prop} {remaining : List ContextState} {past : List Packet}
variable {s : TestServer} {call : Handlers} {state : ContextState}

theorem Inv.ready (h : Inv options live remaining past s) (reply : Reply)
    (hready : s.context.writer = .started →
      Open options remaining past s → Ready options remaining past s reply) :
    Session options s.data.option past ∧
      (s.context.writer = .started → live ∧ Ready options remaining past s reply) :=
  ⟨h.session, fun hwriter =>
    ⟨(h.started hwriter).1, hready hwriter (h.started hwriter).2⟩⟩

theorem combine_eq_some {dest src combined : MilterOption} (h : dest.combine src = some combined) :
    combined.version = src.version ∧
      ∀ flag, src.step &&& flag = 0#32 → combined.step &&& flag = 0#32 := by
  rw [MilterOption.combine] at h
  split at h
  · cases h
  · cases h
    refine ⟨rfl, fun flag hflag => ?_⟩
    rw [BitVec.and_assoc, hflag, BitVec.and_zero]

theorem decoderNegotiateReply_keeps (option : MilterOption)
    (hcall : ∀ reply, Proc.Keeps (Inv options False remaining) (call reply)) :
    Proc.Keeps (Inv options live remaining) (decoderNegotiateReply options call option) := by
  apply triple_contextOf
  intro context
  refine Proc.Triple.bind (fun _ past s => Inv options live remaining past s ∧
      { s.context with timeout := context.timeout } = context) ?_ fun _ => ?_
  · apply Proc.Triple.update
    rintro past s ⟨h, rfl⟩
    exact ⟨h.touch, rfl⟩
  · split
    · exact cbError_triple.weaken fun _ _ h => h.1.session
    · next combined hcombine =>
        refine Proc.Triple.bind (fun _ past s => Session options s.data.option past ∧
          (s.context.writer = .started → live ∧ (∀ packet ∈ past, packetRank packet ≤ 10) ∧
            context.quitted = false ∧ (s.data.option = none → Open options remaining past
              { s with data := { s.data with option := some option } }))) ?_ fun _ => ?_
        · apply Proc.Triple.update
          rintro past s ⟨h, hcontext⟩
          refine ⟨h.session, fun hwriter => ?_⟩
          have hopen := (h.started hwriter).2
          have hfacts := combine_eq_some hcombine
          refine ⟨(h.started hwriter).1, hopen.within, ?_, fun hnone => ?_⟩
          · rw [← hcontext]
            exact hopen.quitted
          · have hanswer := hopen.answer h.session hnone hfacts.1 hfacts.2
            exact { hanswer with order := fun hfits => { hanswer.order hfits with } }
        · apply Proc.Triple.ite
          · intro _
            apply Proc.Triple.ite
            · intro _
              apply (handle_triple (.negotiateReply option) hcall).weaken
              rintro past s ⟨hsession, hready⟩
              exact ⟨hsession, fun hwriter => ⟨(hready hwriter).1, (hready hwriter).2.1,
                (hready hwriter).2.2.2⟩⟩
            · intro hquitted
              apply Proc.Triple.pure
              rintro past s ⟨hsession, hready⟩
              refine Inv.of_stopped hsession fun hwriter => hquitted ?_
              rw [(hready hwriter).2.2.1]
              rfl
          · exact fun _ => cbError_triple.weaken fun _ _ h => h.1

/-- Nothing is left to do at the end of a message that is still sent. -/
theorem Inv.transitAtEnd (h : Inv options live remaining past s) :
    Inv options live remaining past { s with context := { s.context with
      state := if s.context.sentEndOfMessage then .endOfMessage else s.context.state } } := by
  refine ⟨h.session, fun hwriter => ?_⟩
  have hopen := (h.started hwriter).2
  have hsame : (if s.context.sentEndOfMessage then .endOfMessage else s.context.state) =
      s.context.state := by
    rw [hopen.sentEndOfMessage]
    rfl
  rw [hsame]
  exact h.started hwriter

theorem clearProcessBodyCount_keeps :
    Proc.Keeps (Inv options live remaining) (updateContext Context.clearProcessBodyCount) :=
  Proc.Keeps.update fun _ _ h => h.transitAtEnd.touch

theorem decrementProcessBodyCount_triple
    (hcall : ∀ reply, Proc.Keeps (Inv options False remaining) (call reply)) :
    Proc.Triple (fun past s => Inv options live remaining past s ∧
        (s.context.writer = .started → s.data.option.isSome))
      (decrementProcessBodyCount options call) fun _ => Inv options live remaining := by
  apply triple_contextOf
  intro context
  split
  · exact Proc.Triple.pure fun _ _ h => h.1.1
  · apply Proc.Triple.ite
    · intro _
      refine Proc.Triple.bind (fun _ past s => Inv options live remaining past s ∧
        (s.context.writer = .started → s.data.option.isSome)) ?_ fun _ => ?_
      · exact Proc.Triple.update fun _ _ h => ⟨h.1.1.touch, h.1.2⟩
      · refine Proc.Triple.bind _ ((handle_triple .continue hcall).weaken fun _ _ h => ?_)
          fun _ => Proc.Triple.update fun _ _ h => h.transitAtEnd
        exact h.1.ready _ fun hwriter hopen => ⟨hopen, h.2 hwriter⟩
    · exact fun _ => Proc.Triple.update fun _ _ h => h.1.1.touch

/-- What is buffered of the body may be written. -/
theorem Inv.flushed (h : Inv options live remaining past s) (hwriter : s.context.writer = .started)
    (hbody : s.context.body ≠ []) (queue : List Nat) :
    Inv options live remaining (past ++ [packetOf s.context (.body [])])
      (written (.body []) queue s) := by
  have hopen := (h.started hwriter).2
  have hunfit : ¬Fits options := fun hfits => hbody (hopen.order hfits).empty
  rcases hopen.buffered hbody with ⟨o, ho, hwants⟩
  have hnew : Open options remaining (past ++ [packetOf s.context (.body [])])
      (written (.body []) queue s) := {
    quitted := hopen.quitted
    sentEndOfMessage := hopen.sentEndOfMessage
    processBodyCount := hopen.processBodyCount
    option := hopen.option
    unanswered := fun hnone => by
      rw [show (written (.body []) queue s).data = s.data from rfl, ho] at hnone
      cases hnone
    uninterrupted := fun next hmem => by
      rcases mem_pending_written hmem with hpending | rfl
      · exact hopen.uninterrupted next hpending
      · decide
    within := fun packet hmem => by
      rcases List.mem_append.mp hmem with hmem | hmem
      · exact hopen.within packet hmem
      · rw [List.mem_singleton.mp hmem]
        show rank .body ≤ 10
        decide
    recipients := by
      rw [List.filterMap_append, hopen.recipients]
      exact List.append_nil _
    headers := by
      rw [List.filterMap_append]
      exact (congrArg (· ++ _) (List.append_nil _)).trans hopen.headers
    chunks := hopen.chunks
    body := by
      rcases hopen.body with ⟨sent, hsent, hrest⟩
      refine ⟨sent, ?_, hrest⟩
      rw [List.flatMap_append, List.flatMap_singleton, List.append_assoc]
      show _ ++ (bodyIn (packetOf s.context (.body [])) ++ bufferOf s.context (.body [])) = _
      rw [bodyIn_packetOf, ← hsent]
      exact congrArg _ (List.append_nil _)
    buffered := fun _ => ⟨o, ho, hwants⟩
    order := fun hfits => absurd hfits hunfit }
  refine ⟨?_, fun _ => ⟨(h.started hwriter).1, hnew⟩⟩
  exact {
    order := fun hfits => absurd hfits hunfit
    recipients := hnew.contents.1
    headers := hnew.contents.2.1
    body := hnew.contents.2.2
    wanted := fun packet hmem => by
      rcases List.mem_append.mp hmem with hmem | hmem
      · exact h.session.wanted packet hmem
      · rw [List.mem_singleton.mp hmem]
        exact .inr (.inr ⟨o, ho, hwants⟩) }

theorem flushBody_keeps (state : ContextState) :
    Proc.Triple (fun past s => Inv options live remaining past s ∧
        (s.context.writer = .started → s.context.body ≠ [] ∧ s.context.state = state))
      flushBody fun _ past s => Inv options live remaining past s ∧
        (s.context.writer = .started → s.context.state = state) := by
  apply Proc.Triple.weaken (flushBody_triple ?_)
  · rintro past s ⟨hinv, hbody⟩
    exact ⟨hinv.session, fun hwriter queue =>
      ⟨hinv.flushed hwriter (hbody hwriter).1 queue, fun _ => (hbody hwriter).2⟩⟩
  · exact remaining
  · intro past s hstopped
    have hwriter : s.context.writer ≠ .started := fun hwriter => (hstopped.started hwriter).1
    exact ⟨.of_stopped hstopped.session hwriter, fun hstarted => absurd hstarted hwriter⟩

theorem decoderContinue_keeps
    (hcall : ∀ reply, Proc.Keeps (Inv options False remaining) (call reply)) :
    Proc.Keeps (Inv options live remaining) (decoderContinue options call) := by
  apply triple_contextOf
  intro context
  refine Proc.Triple.bind (fun _ past s => Inv options live remaining past s ∧
    (0 < rank context.state → s.context.writer = .started → s.data.option.isSome)) ?_ fun _ => ?_
  · apply Proc.Triple.update
    rintro past s ⟨h, rfl⟩
    exact ⟨h.touch, fun hrank hwriter => (h.started hwriter).2.option_isSome hrank⟩
  · have hemit : 0 < rank context.state →
        Proc.Triple (fun past s => Inv options live remaining past s ∧
          (0 < rank context.state → s.context.writer = .started → s.data.option.isSome))
          (if !context.quitted then handle options call .continue else pure ⟨⟩)
          fun _ => Inv options live remaining := by
      intro hrank
      apply Proc.Triple.ite
      · intro _
        apply (handle_triple .continue hcall).weaken
        exact fun past s h => h.1.ready _ fun hwriter hopen => ⟨hopen, h.2 hrank hwriter⟩
      · exact fun _ => Proc.Triple.pure fun _ _ h => h.1
    cases hstate : context.state
    case body =>
      apply Proc.Triple.ite
      · intro _
        refine Proc.Triple.bind _ ((decrementProcessBodyCount_triple hcall).weaken
          fun _ _ h => ⟨h.1, h.2 (by decide)⟩) fun _ => ?_
        apply triple_contextOf
        intro context
        apply Proc.Triple.ite
        · intro hbody
          refine Proc.Triple.bind _ ((flushBody_keeps context.state).weaken ?_)
            fun _ => Proc.Triple.pure fun _ _ h => h.1
          rintro past s ⟨h, rfl⟩
          exact ⟨h, fun _ => ⟨hbody, rfl⟩⟩
        · exact fun _ => Proc.Triple.pure fun _ _ h => h.1
      · exact fun _ => Proc.Triple.pure fun _ _ h => h.1
    case invalid | start | defineMacro | negotiate | quit | abort =>
      exact cbError_triple.weaken fun _ _ h => h.1.session
    all_goals
      rw [hstate] at hemit
      exact hemit (by decide)

/-- The handlers of the other replies rely on nothing but the invariant. -/
theorem handle_keeps (reply : Reply)
    (hreply : ∀ past s, Open options remaining past s → Ready options remaining past s reply)
    (hcall : ∀ reply, Proc.Keeps (Inv options False remaining) (call reply)) :
    Proc.Keeps (Inv options live remaining) (handle options call reply) :=
  (handle_triple reply hcall).weaken fun past s h => h.ready _ fun _ hopen => hreply past s hopen

theorem decoderReplyCode_keeps (code : Nat) (extendedCode message : Option Bytes)
    (hcall : ∀ reply, Proc.Keeps (Inv options False remaining) (call reply)) :
    Proc.Keeps (Inv options live remaining)
      (decoderReplyCode options call code extendedCode message) := by
  apply triple_contextOf
  intro context
  refine Proc.Triple.bind (fun _ => Inv options live remaining)
    (disableTimeout_keeps.weaken fun _ _ h => h.1) fun _ => ?_
  have hemit : ∀ state : ContextState, Proc.Keeps (Inv options live remaining)
      (if !context.quitted then do
        Proc.when (state = .body) (updateContext Context.clearProcessBodyCount)
        handle options call (.replyCode code extendedCode message)
      else pure ⟨⟩) := by
    intro state
    apply Proc.Keeps.ite
    · exact Proc.Keeps.bind (Proc.Keeps.when fun _ => clearProcessBodyCount_keeps) fun _ =>
        handle_keeps _ (fun _ _ h => h) hcall
    · exact Proc.Keeps.pure _
  cases context.state
  case invalid | start | defineMacro | negotiate | quit | abort =>
    exact cbError_triple.weaken fun _ _ h => h.session
  all_goals exact hemit _

theorem decoderFinalStatus_keeps (reply : Reply)
    (hreply : ∀ past s, Open options remaining past s → Ready options remaining past s reply)
    (hcall : ∀ reply, Proc.Keeps (Inv options False remaining) (call reply)) :
    Proc.Keeps (Inv options live remaining) (decoderFinalStatus options call reply) := by
  refine Proc.Keeps.bind disableTimeout_keeps fun _ => ?_
  apply triple_contextOf
  intro context
  apply Proc.Triple.ite
  · intro _
    refine Proc.Triple.bind (fun _ => Inv options live remaining)
      ((handle_keeps reply hreply hcall).weaken fun _ _ h => h.1) fun _ => ?_
    apply triple_contextOf
    intro context
    apply Proc.Triple.ite
    · exact fun _ => clearProcessBodyCount_keeps.weaken fun _ _ h => h.1
    · exact fun _ => Proc.Triple.pure fun _ _ h => h.1
  · exact fun _ => Proc.Triple.pure fun _ _ h => h.1

theorem decoderAtEndOfMessage_keeps (reply : Reply)
    (hreply : ∀ past s, Open options remaining past s → Ready options remaining past s reply)
    (hcall : ∀ reply, Proc.Keeps (Inv options False remaining) (call reply)) :
    Proc.Keeps (Inv options live remaining) (decoderAtEndOfMessage options call reply) := by
  apply triple_contextOf
  intro context
  apply Proc.Triple.ite
  · intro _
    apply Proc.Triple.ite
    · exact fun _ => (handle_keeps reply hreply hcall).weaken fun _ _ h => h.1
    · exact fun _ => Proc.Triple.pure fun _ _ h => h.1
  · exact fun _ => cbError_triple.weaken fun _ _ h => h.1.session

theorem decoderProgress_keeps
    (hcall : ∀ reply, Proc.Keeps (Inv options False remaining) (call reply)) :
    Proc.Keeps (Inv options live remaining) (decoderProgress options call) := by
  apply triple_contextOf
  intro context
  apply Proc.Triple.ite
  · intro _
    apply Proc.Triple.ite
    · intro _
      exact Proc.Triple.bind (fun _ => Inv options live remaining)
        ((registerTimeout_keeps _).weaken fun _ _ h => h.1) fun _ =>
          handle_keeps .progress (fun _ _ h => h) hcall
    · exact fun _ => Proc.Triple.pure fun _ _ h => h.1
  · exact fun _ => cbError_triple.weaken fun _ _ h => h.1.session

theorem decoderGone_keeps (reply : Reply)
    (hreply : ∀ past s, Open options remaining past s → Ready options remaining past s reply)
    (hcall : ∀ reply, Proc.Keeps (Inv options False remaining) (call reply)) :
    Proc.Keeps (Inv options live remaining) (decoderGone options call reply) := by
  refine Proc.Keeps.bind disableTimeout_keeps fun _ => ?_
  apply triple_contextOf
  intro context
  apply Proc.Triple.ite
  · exact fun _ => (handle_keeps reply hreply hcall).weaken fun _ _ h => h.1
  · exact fun _ => Proc.Triple.pure fun _ _ h => h.1

theorem decoderSkip_keeps
    (hcall : ∀ reply, Proc.Keeps (Inv options False remaining) (call reply)) :
    Proc.Keeps (Inv options live remaining) (decoderSkip options call) := by
  refine Proc.Keeps.bind disableTimeout_keeps fun _ => ?_
  apply triple_contextOf
  intro context
  apply Proc.Triple.ite
  · intro hstate
    apply Proc.Triple.ite
    · intro _
      refine Proc.Triple.bind (fun _ => Inv options live remaining)
        ((handle_triple .skip hcall).weaken ?_) fun _ => ?_
      · rintro past s ⟨h, rfl⟩
        exact h.ready _ fun _ hopen => ⟨hopen, hopen.option_isSome (by rw [hstate]; decide)⟩
      · exact Proc.Keeps.bind clearProcessBodyCount_keeps fun _ =>
          Proc.Keeps.update fun _ _ h => h.touch
    · exact fun _ => Proc.Triple.pure fun _ _ h => h.1
  · exact fun _ => cbError_triple.weaken fun _ _ h => h.1.session

theorem decode_keeps (reply : Reply)
    (hcall : ∀ reply, Proc.Keeps (Inv options False remaining) (call reply)) :
    Proc.Keeps (Inv options live remaining) (decode options call reply) := by
  cases reply
  case negotiateReply option => exact decoderNegotiateReply_keeps option hcall
  case «continue» => exact decoderContinue_keeps hcall
  case replyCode code extendedCode message =>
    exact decoderReplyCode_keeps code extendedCode message hcall
  case progress => exact decoderProgress_keeps hcall
  case skip => exact decoderSkip_keeps hcall
  case connectionFailure | shutdown => exact decoderGone_keeps _ (fun _ _ h => h) hcall
  case temporaryFailure | reject | accept | discard =>
    exact decoderFinalStatus_keeps _ (fun _ _ h => h) hcall
  all_goals exact decoderAtEndOfMessage_keeps _ (fun _ _ h => h) hcall

/-- The state that a flush leads to next. -/
theorem Inv.transit {next : ContextState}
    (h : Inv options live (next :: remaining) past s) :
    Inv options live remaining past { s with context := { s.context with state := next } } := by
  refine ⟨h.session, fun hwriter => ?_⟩
  have hopen := (h.started hwriter).2
  refine ⟨(h.started hwriter).1, { hopen with
    unanswered := fun hnone state hmem =>
      hopen.unanswered hnone state (List.mem_cons_of_mem _ hmem)
    uninterrupted := fun state hmem => hopen.uninterrupted state (List.mem_cons_of_mem _ hmem)
    order := fun hfits => ?_ }⟩
  have hordered := hopen.order hfits
  have hle : rank s.context.state ≤ rank next :=
    (List.pairwise_cons.mp hordered.sorted).1 next List.mem_cons_self
  have hstill : ∀ other, Ahead options { s with context := { s.context with state := next } }
      other → Ahead options s other :=
    fun other hother => ⟨hother.1, follows_of_le hle hother.2⟩
  exact {
    empty := hordered.empty
    sorted := (List.pairwise_cons.mp hordered.sorted).2
    past := fun packet hmem other hother => hordered.past packet hmem other (hstill other hother)
    pending := fun state hmem other hother =>
      hordered.pending state (List.mem_cons_of_mem _ hmem) other (hstill other hother) }

/-- When nothing can be written, everything holds of what can be. -/
theorem Inv.of_dead {P : Prop} (h : Inv options False remaining past s) :
    Inv options live remaining past s ∧ (s.context.writer = .started → P) :=
  ⟨⟨h.session, fun hwriter => (h.started hwriter).1.elim⟩,
    fun hwriter => (h.started hwriter).1.elim⟩

/-- The invariant when a flush has led to a state. -/
def Reached (options : Options) (live : Prop) (remaining : List ContextState)
    (next : ContextState) (past : List Packet) (s : TestServer) : Prop :=
  Inv options live remaining past s ∧ (s.context.writer = .started → s.context.state = next)

theorem registerTimeout_reached (timeout : Timeout) (next : ContextState) :
    Proc.Keeps (Reached options live remaining next) (registerTimeout timeout) :=
  Proc.Keeps.update fun _ _ h => ⟨h.1.touch, h.2⟩

theorem updateState_triple {next : ContextState} :
    Proc.Triple (Inv options live (next :: remaining))
      (updateContext fun context => { context with state := next })
      fun _ => Reached options live remaining next :=
  Proc.Triple.update fun _ _ h => ⟨h.transit, fun _ => rfl⟩

theorem cbError_reached {next : ContextState} :
    Proc.Triple (Inv options live (next :: remaining)) cbError
      fun _ => Reached options live remaining next := by
  have herror : Proc.Triple (fun past s => Session options s.data.option past) cbError
    fun _ => Inv options False remaining := cbError_triple
  exact herror.consequence (fun _ _ h => h.session) fun _ _ _ h => h.of_dead

/-- An interruption is flushed only when nothing can be written any more. -/
theorem Inv.stopped_of_interrupts {next : ContextState} (hnext : next.interrupts)
    (h : Inv options live (next :: remaining) past s) :
    Inv options False remaining past s := by
  refine ⟨h.session, fun hwriter => ?_⟩
  have := (h.started hwriter).2.uninterrupted next List.mem_cons_self
  cases next <;> first | exact absurd this (by decide) | cases hnext

theorem processNextState_triple {next : ContextState} :
    Proc.Triple (Inv options live (next :: remaining)) (processNextState next)
      fun _ => Reached options live remaining next := by
  apply Proc.Triple.ite
  · exact fun _ => cbError_reached
  · intro _
    refine Proc.Triple.bind (fun _ => Inv options live (next :: remaining)) disableTimeout_keeps
      fun _ => ?_
    cases next
    case endOfMessage =>
      refine Proc.Triple.bind (fun _ => Reached options live remaining .endOfMessage) ?_
        fun _ => registerTimeout_reached _ _
      apply Proc.Triple.update
      intro past s h
      beta_reduce
      by_cases hcount : s.context.processBodyCount = 0
      · rw [if_pos hcount]
        exact ⟨h.transit, fun _ => rfl⟩
      · rw [if_neg hcount]
        have hwriter : s.context.writer ≠ .started :=
          fun hwriter => hcount (h.started hwriter).2.processBodyCount
        exact ⟨.of_stopped h.session hwriter, fun hstarted => absurd hstarted hwriter⟩
    case body =>
      refine Proc.Triple.bind (fun _ => Reached options live remaining .body) updateState_triple
        fun _ => ?_
      apply triple_contextOf
      intro context
      apply Proc.Triple.ite
      · exact fun _ => Proc.Triple.pure fun _ _ h => h.1
      · intro hbody
        apply Proc.Triple.ite
        · intro _
          refine Proc.Triple.bind _ ((flushBody_keeps .body).weaken ?_)
            fun _ => Proc.Triple.pure fun _ _ h => h
          rintro past s ⟨h, rfl⟩
          exact ⟨h.1, fun hwriter => ⟨hbody, h.2 hwriter⟩⟩
        · exact fun _ => (registerTimeout_reached _ _).weaken fun _ _ h => h.1
    case quit =>
      refine Proc.Triple.bind (fun _ => Inv options False remaining)
        (agentShutdown_triple.weaken fun _ _ h => h.session) fun _ => ?_
      apply Proc.Triple.update
      intro past s h
      refine ⟨Inv.of_stopped h.session ?_, fun _ => rfl⟩
      exact fun hwriter => (h.started hwriter).1
    case abort =>
      refine Proc.Triple.bind (fun _ => Reached options False remaining .abort)
        (Proc.Triple.update ?_) fun _ => Proc.Triple.update ?_
      · intro past s h
        have hstopped := h.stopped_of_interrupts rfl
        refine ⟨Inv.of_stopped h.session ?_, fun _ => rfl⟩
        exact fun hwriter => (hstopped.started hwriter).1
      · intro past s h
        refine ⟨Inv.of_stopped h.1.session ?_, fun hwriter => h.2 hwriter⟩
        exact fun hwriter => (h.1.started hwriter).1
    all_goals
      refine Proc.Triple.bind (fun _ => Reached options live remaining _) updateState_triple
        fun _ => ?_
      apply triple_contextOf
      intro context
      apply Proc.Triple.ite
      · exact fun _ => (registerTimeout_reached _ _).weaken fun _ _ h => h.1
      · exact fun _ => Proc.Triple.pure fun _ _ h => h.1

/-- A flush leads through the states of the packets that were written. -/
theorem flushed_keeps
    (hcall : ∀ remaining reply, Proc.Keeps (Inv options False remaining) (call reply)) :
    Proc.Keeps (Inv options live []) (flushed options call) := by
  have hloop : ∀ states, Proc.Triple (Inv options live states)
      (Proc.each (fun nextState => do
        processNextState nextState
        cbStateTransited options call nextState) states) fun _ => Inv options live [] := by
    intro states
    induction states with
    | nil => exact Proc.Keeps.pure _
    | cons next states ih =>
        refine Proc.Triple.bind (fun _ => Inv options live states) ?_ fun _ => ih
        exact Proc.Triple.bind _ processNextState_triple fun _ =>
          cbStateTransited_triple (hcall states)
  apply triple_contextOf
  intro context
  refine Proc.Triple.bind (fun _ => Inv options live context.nextStates) ?_ fun _ => hloop _
  apply Proc.Triple.update
  rintro past s ⟨h, rfl⟩
  refine ⟨h.session, fun hwriter => ?_⟩
  have hopen := (h.started hwriter).2
  have hpending : pending s.context.nextStates
      { s with context := { s.context with nextStates := [] } } = pending [] s := List.append_nil _
  refine ⟨(h.started hwriter).1, { hopen with
    unanswered := fun hnone => hpending ▸ hopen.unanswered hnone
    uninterrupted := hpending ▸ hopen.uninterrupted
    order := fun hfits => ?_ }⟩
  have hordered := hopen.order hfits
  exact { hordered with
    sorted := hpending ▸ hordered.sorted
    pending := hpending ▸ hordered.pending }

theorem expireTimeout_keeps : Proc.Keeps (Inv options live remaining) expireTimeout := by
  apply triple_contextOf
  intro context
  split
  · exact Proc.Triple.pure fun _ _ h => h.1
  · exact Proc.Triple.pure fun _ _ h => h.1
  · refine Proc.Triple.bind (fun _ => Inv options live remaining)
      ((registerTimeout_keeps _).weaken fun _ _ h => h.1) fun _ => ?_
    refine Proc.Keeps.bind (Proc.Keeps.update fun _ _ h => h.touch) fun _ => ?_
    refine Proc.Keeps.bind (Proc.Keeps.when fun _ => ?_) fun _ => Proc.Keeps.when fun _ => ?_
    · exact sendAbort_triple.weaken fun _ _ h => h.closable
    · exact agentShutdown_triple.weaken fun _ _ h => h.session

/-- What happens on the connection keeps the invariant. -/
theorem step_keeps (event : Event)
    (hcall : ∀ remaining reply, Proc.Keeps (Inv options False remaining) (call reply)) :
    Proc.Keeps (Inv options live []) (step options call event) := by
  apply triple_contextOf
  intro context
  apply Proc.Triple.ite
  · exact fun _ => Proc.Triple.pure fun _ _ h => h.1
  · intro _
    cases event with
    | flushed => exact (flushed_keeps hcall).weaken fun _ _ h => h.1
    | replied reply => exact (decode_keeps reply (hcall [])).weaken fun _ _ h => h.1
    | expired => exact expireTimeout_keeps.weaken fun _ _ h => h.1
    | hungUp => exact agentShutdown_triple.weaken fun _ _ h => h.1.session

/-- The negotiation begins a session. -/
theorem inv_negotiated (options : Options) :
    Inv options True [] [.negotiate (offeredOption options)]
      (contextNegotiate (offeredOption options) (ready options)).state := by
  have hzero : packetRank (.negotiate (offeredOption options)) = 0 := rfl
  refine ⟨⟨?_, ?_, ?_, ?_, ?_⟩, fun _ => ⟨trivial, ?_⟩⟩
  · exact fun _ => List.pairwise_singleton _ _
  · exact List.nil_prefix
  · exact List.nil_prefix
  · exact List.nil_prefix
  · intro packet hmem
    rw [List.mem_singleton.mp hmem]
    exact .inl rfl
  · constructor
    case option => exact fun o ho => by cases ho
    case unanswered =>
      intro _ state hmem
      rcases List.mem_cons.mp hmem with rfl | hmem
      · rfl
      · rw [List.mem_singleton.mp hmem]
        rfl
    case uninterrupted =>
      intro state hmem
      rw [List.mem_singleton.mp hmem]
      decide
    case within =>
      intro packet hmem
      rw [List.mem_singleton.mp hmem, hzero]
      decide
    case body => exact ⟨0, rfl, Nat.le_refl _, .inl rfl⟩
    case buffered => exact fun hbuffer => absurd rfl hbuffer
    case order =>
      intro _
      constructor
      · rfl
      · exact List.pairwise_pair.mpr (Nat.le_refl _)
      · intro packet hmem state _
        rw [List.mem_singleton.mp hmem, hzero]
        exact Nat.zero_le _
      · intro next hmem state _
        rw [List.mem_singleton.mp hmem]
        exact Nat.zero_le _
    all_goals rfl

end Receive

theorem inv_run (options : Options) (depth : Nat) (events : List Event) :
    Inv options True [] (run options depth events (ready options)).trace
      (run options depth events (ready options)).state := by
  have hnegotiate : (contextNegotiate (offeredOption options) (ready options)).trace =
      [.negotiate (offeredOption options)] := rfl
  have hkeeps : Proc.Keeps (Inv options True [])
      (Proc.each (step options (dispatch options depth)) events) :=
    Proc.Keeps.each events fun event _ =>
      step_keeps event fun remaining => dispatch_keeps options remaining depth
  have hrun := hkeeps _ _ (inv_negotiated options)
  show Inv options True [] ((contextNegotiate (offeredOption options) (ready options)).trace ++ _) _
  rw [hnegotiate]
  exact hrun

/-- Whatever a milter replies, and whenever, what the test server has written is a session: the
commands are in order and wanted, and with them come the recipients, the headers and the body of the
mail from their beginning on. -/
theorem session_of_run (options : Options) (depth : Nat) (events : List Event) :
    Session options (run options depth events (ready options)).state.data.option
      (run options depth events (ready options)).trace :=
  (inv_run options depth events).session

end MilterManager.Tool
