import Mathlib.Data.List.Infix
import Mathlib.Tactic.FinCases
import MilterManager.Tool.TestInvariant

/-!
# Gaps in a session

When a command has no reply, `cb_state_transited`, `tool/milter-test-server.c:768`, sends the next
one. It falls through its cases only while the commands have no reply: a command that has one and
is left out is a gap, behind which nothing is sent.
-/

namespace MilterManager.Tool

open MilterManager.Base MilterManager.Core MilterManager.Server

/-- The milter replies to the command. -/
def replies (o : MilterOption) (state : ContextState) : Bool :=
  o.step &&& Context.noReplyFlag state = 0#32

/-- The commands behind another one. -/
def later (state : ContextState) : List ContextState := sessionOrder.drop (rank state)

/-- Behind a command without a reply, the next one that there is something to send for is reached:
those between them have no reply either. Behind the recipients an unknown command is no hindrance
to the end of the commands. -/
def reaches (o : MilterOption) (available : ContextState → Bool) : List ContextState → Bool
  | [] => true
  | next :: rest =>
      available next ||
        ((!replies o next || (next = .unknown && available .data)) && reaches o available rest)

/-- There is something to send for a command. -/
def available (options : Options) (data : ProcessData) (state : ContextState) : Bool :=
  !(packets options data state).isEmpty

/-- The data of the tool when the negotiation is answered. -/
def answered (options : Options) (o : MilterOption) : ProcessData :=
  { initProcessData options with option := some o }

/-- No command without a reply stands before one that has a reply and is left out, an unknown
command apart that there is a data command behind. -/
def Gapless (options : Options) (o : MilterOption) : Prop :=
  ∀ state ∈ later .negotiate, available options (answered options o) state →
    replies o state = false → reaches o (available options (answered options o)) (later state)

instance (options : Options) (o : MilterOption) : Decidable (Gapless options o) :=
  inferInstanceAs (Decidable (∀ state ∈ later .negotiate, _ → _ → _))

/-- The commands that may come behind another one: itself, when it is given more than once. -/
def onward (state : ContextState) : List ContextState :=
  if repeats state then state :: later state else later state

/-- The packets behind a command. -/
def ahead (options : Options) (data : ProcessData) (state : ContextState) : List Packet :=
  (onward state).flatMap (packets options data)

/-! ## The lines of the switches -/

/-- The command that the lines of a switch send. -/
def firstLine (o : MilterOption) (available : ContextState → Bool) : List Line → Option ContextState
  | [] => none
  | .send state :: lines => if available state then some state else firstLine o available lines
  | .unlessReplied state :: lines =>
      if replies o state then none else firstLine o available lines

section Lines

variable {o : MilterOption} {available : ContextState → Bool} {lines : List Line}
variable {state : ContextState} {states : List ContextState}

theorem find?_cons_eq (available : ContextState → Bool) (state : ContextState)
    (states : List ContextState) : (state :: states).find? available =
      if available state then some state else states.find? available := by
  rw [List.find?_cons]
  cases available state <;> rfl

theorem firstLine_send (state : ContextState)
    (h : firstLine o available lines = states.find? available) :
    firstLine o available (.send state :: lines) = (state :: states).find? available := by
  rw [firstLine, find?_cons_eq, h]

/-- It makes no difference to try a command twice. -/
theorem firstLine_send_again
    (h : firstLine o available lines = (state :: states).find? available) :
    firstLine o available (.send state :: lines) = (state :: states).find? available := by
  rw [firstLine, h, find?_cons_eq]
  split <;> rfl

/-- `cb_continue` sends for the first command that there is something to send for. -/
theorem firstLine_continueLines (o : MilterOption) (available : ContextState → Bool)
    (hstate : state ∈ .negotiate :: sessionOrder) :
    firstLine o available (continueLines state) = (onward state).find? available := by
  have hbody : firstLine o available continueLines.afterBody = (onward .body).find? available :=
    firstLine_send _ (firstLine_send _ rfl)
  have hendOfHeader : firstLine o available continueLines.afterEndOfHeader =
      (onward .endOfHeader).find? available := firstLine_send_again hbody
  have hheader : firstLine o available continueLines.afterHeader =
      (onward .header).find? available := firstLine_send _ (firstLine_send _ hendOfHeader)
  have hdata : firstLine o available continueLines.afterData = (onward .data).find? available :=
    firstLine_send_again hheader
  have hunknown : firstLine o available continueLines.afterUnknown =
      (onward .unknown).find? available := firstLine_send _ hdata
  have hrecipient : firstLine o available continueLines.afterEnvelopeRecipient =
      (onward .envelopeRecipient).find? available := firstLine_send _ (firstLine_send _ hunknown)
  have hsender : firstLine o available continueLines.afterEnvelopeFrom =
      (onward .envelopeFrom).find? available := firstLine_send_again hrecipient
  have hhelo : firstLine o available continueLines.afterHelo = (onward .helo).find? available :=
    firstLine_send _ hsender
  have hconnect : firstLine o available continueLines.afterConnect =
      (onward .connect).find? available := firstLine_send _ hhelo
  cases state
  case negotiate => exact firstLine_send _ hconnect
  case connect => exact hconnect
  case helo => exact hhelo
  case envelopeFrom => exact hsender
  case envelopeRecipient => exact hrecipient
  case unknown => exact hunknown
  case data => exact hdata
  case header => exact hheader
  case endOfHeader => exact hendOfHeader
  case body => exact hbody
  case endOfMessage => rfl
  all_goals exact absurd hstate (by decide)

/-- The command that is reached behind one without a reply. -/
def reached (o : MilterOption) (available : ContextState → Bool) (states : List ContextState) :
    Option ContextState :=
  if reaches o available states then states.find? available else none

theorem reached_cons : reached o available (state :: states) =
    if available state then some state
    else if !replies o state || (state = .unknown && available .data) then
      reached o available states
    else none := by
  rw [reached, reaches, find?_cons_eq, reached]
  cases available state <;>
    cases hgap : !replies o state || (state = .unknown && available .data) <;> simp

/-- A command that was tried is tried again behind its label. -/
theorem firstLine_send_label (hstate : state ≠ .unknown)
    (h : firstLine o available lines =
      if replies o state then none else reached o available (onward state)) :
    firstLine o available (.send state :: lines) = reached o available (state :: later state) := by
  rw [firstLine, reached_cons, h]
  by_cases havailable : available state
  · rw [if_pos havailable, if_pos havailable]
  · rw [if_neg havailable, if_neg havailable]
    by_cases hreplies : replies o state
    · simp [hreplies, hstate]
    · rw [onward]
      by_cases hrepeats : repeats state
      · simp [hreplies, hrepeats, reached_cons, havailable]
      · simp [hreplies, hrepeats]

theorem firstLine_send_silent (hsilent : replies o state = false)
    (h : firstLine o available lines = reached o available states) :
    firstLine o available (.send state :: lines) = reached o available (state :: states) := by
  rw [firstLine, reached_cons, h, hsilent]
  rfl

/-- The lines behind a label count when the command of the label has no reply. -/
theorem firstLine_label
    (h : replies o state = false → firstLine o available lines = reached o available states) :
    firstLine o available (.unlessReplied state :: lines) =
      if replies o state then none else reached o available states := by
  rw [firstLine]
  by_cases hreplies : replies o state
  · rw [if_pos hreplies, if_pos hreplies]
  · rw [if_neg hreplies, if_neg hreplies]
    exact h (by simpa using hreplies)

/-- `cb_state_transited` sends so as well, when no reply is missing in between. -/
theorem firstLine_transitedLines (o : MilterOption) (available : ContextState → Bool)
    (hstate : state ∈ sessionOrder) (hlast : state ≠ .endOfMessage)
    (hend : available .endOfMessage) :
    firstLine o available (transitedLines state) =
      if replies o state then none else reached o available (onward state) := by
  have hmessage : reached o available [.endOfMessage] = some .endOfMessage := by
    rw [reached_cons, if_pos hend]
  have hbody : firstLine o available transitedLines.body =
      if replies o .body then none else reached o available (onward .body) := by
    apply firstLine_label
    intro hsilent
    apply firstLine_send_silent hsilent
    show firstLine o available [.send .endOfMessage] = reached o available [.endOfMessage]
    rw [hmessage, firstLine, if_pos hend]
  have hendOfHeader : firstLine o available transitedLines.endOfHeader =
      if replies o .endOfHeader then none else reached o available (onward .endOfHeader) :=
    firstLine_label fun _ => firstLine_send_label (by decide) hbody
  have hheader : firstLine o available transitedLines.header =
      if replies o .header then none else reached o available (onward .header) :=
    firstLine_label fun hsilent =>
      firstLine_send_silent hsilent (firstLine_send_label (by decide) hendOfHeader)
  have hdata : firstLine o available transitedLines.data =
      if replies o .data then none else reached o available (onward .data) :=
    firstLine_label fun _ => firstLine_send_label (by decide) hheader
  have hunknown : firstLine o available transitedLines.unknown =
      if replies o .unknown then none else reached o available (onward .unknown) :=
    firstLine_label fun _ => firstLine_send_label (by decide) hdata
  -- the lines of a recipient try the end of the commands before the label of the unknown command
  have htried : firstLine o available (.send .unknown :: .send .data :: transitedLines.unknown) =
      reached o available (.unknown :: later .unknown) := by
    rw [firstLine, firstLine, hunknown, reached_cons]
    have hlater : reached o available (later .unknown) =
        if available .data then some .data
        else if !replies o .data || (ContextState.data = .unknown && available .data) then
          reached o available (later .data)
        else none := reached_cons
    have honward : onward .unknown = later .unknown := rfl
    rw [honward]
    by_cases hsent : available .unknown
    · rw [if_pos hsent, if_pos hsent]
    · rw [if_neg hsent, if_neg hsent]
      by_cases hnext : available .data
      · rw [if_pos hnext, hnext, hlater, if_pos hnext]
        simp
      · by_cases hreplies : replies o .unknown <;> simp [hnext, hreplies]
  have hrecipient : firstLine o available transitedLines.envelopeRecipient =
      if replies o .envelopeRecipient then none
      else reached o available (onward .envelopeRecipient) :=
    firstLine_label fun hsilent => firstLine_send_silent hsilent htried
  have hsender : firstLine o available transitedLines.envelopeFrom =
      if replies o .envelopeFrom then none else reached o available (onward .envelopeFrom) :=
    firstLine_label fun _ => firstLine_send_label (by decide) hrecipient
  have hhelo : firstLine o available transitedLines.helo =
      if replies o .helo then none else reached o available (onward .helo) :=
    firstLine_label fun _ => firstLine_send_label (by decide) hsender
  cases state
  case connect => exact firstLine_label fun _ => firstLine_send_label (by decide) hhelo
  case helo => exact hhelo
  case envelopeFrom => exact hsender
  case envelopeRecipient => exact hrecipient
  case unknown => exact hunknown
  case data => exact hdata
  case header => exact hheader
  case endOfHeader => exact hendOfHeader
  case body => exact hbody
  case endOfMessage => exact absurd rfl hlast
  all_goals exact absurd hstate (by decide)

end Lines

/-! ## What is ahead -/

section Ahead

variable {options : Options} {data : ProcessData} {o : MilterOption}
variable {state next : ContextState} {packet : Packet} {rest : List Packet}

theorem available_iff : available options data state ↔ packets options data state ≠ [] := by
  rw [available, Bool.not_eq_true', List.isEmpty_eq_false_iff]

theorem packets_advance_of_ne (h : Next options data next packet rest) {other : ContextState}
    (hother : other ≠ next) :
    packets options (advance packet data) other = packets options data other := by
  rw [packets, packets, effectiveOption, advance_option, ← effectiveOption]
  cases h
  case envelopeRecipient =>
    cases other
    case envelopeRecipient => exact absurd rfl hother
    all_goals rfl
  case header =>
    cases other
    case header => exact absurd rfl hother
    all_goals rfl
  case body =>
    cases other
    case body => exact absurd rfl hother
    all_goals rfl
  all_goals rfl

/-- The packets that are left of the command itself. -/
theorem packets_advance_self (hpackets : packets options data next = packet :: rest) :
    if repeats next then packets options (advance packet data) next = rest else rest = [] := by
  have hnext := next_of_packets hpackets
  have hwants := wants_of_packets_ne_nil (hpackets ▸ List.cons_ne_nil packet rest)
  have hadvance : packets options (advance packet data) next =
      left options (advance packet data) next := by
    rw [packets, effectiveOption, advance_option, ← effectiveOption, if_pos hwants]
  rw [hadvance]
  cases hnext
  case envelopeRecipient recipient recipients hdrop =>
    show (options.recipients.drop (data.currentRecipient + 1)).map
      Children.Packet.envelopeRecipient = _
    rw [← List.drop_drop, hdrop]
    rfl
  case header header headers hheaders =>
    show (List.erase data.optionHeaders header).map _ = _
    rw [hheaders, List.erase_cons_head]
  case body chunk chunks hdrop =>
    show (data.bodyChunks.drop (data.currentBodyChunk + 1)).map Children.Packet.body = _
    rw [← List.drop_drop, hdrop]
    rfl
  all_goals rfl

/-- What comes behind a command in the order of a session. -/
theorem later_of_suffix {states : List ContextState} (hstate : state ∈ .negotiate :: sessionOrder)
    (h : next :: states <:+ onward state) : states = later next := by
  have hsuffixes : ∀ suffix ∈ (onward state).tails,
      suffix.tail = (suffix.head?.map later).getD [] := by
    fin_cases hstate <;> decide
  exact hsuffixes _ ((List.mem_tails _ _).mpr h)

/-- The next command that there is something to send for, and those before it. -/
theorem onward_of_find? (hstate : state ∈ .negotiate :: sessionOrder)
    (h : (onward state).find? (available options data) = some next) :
    ∃ states, onward state = states ++ next :: later next ∧
      (∀ other ∈ states, packets options data other = []) ∧ packets options data next ≠ [] := by
  rcases List.find?_eq_some_iff_append.mp h with ⟨hnext, states, back, honward, hstates⟩
  have hback := later_of_suffix hstate ⟨states, honward.symm⟩
  refine ⟨states, hback ▸ honward, fun other hother => ?_, available_iff.mp hnext⟩
  by_contra hother'
  have := hstates other hother
  rw [available_iff.mpr hother'] at this
  cases this

theorem ne_of_mem_later {other : ContextState} (hnext : next ∈ sessionOrder)
    (h : other ∈ later next) : other ≠ next := by
  have hall : ∀ other ∈ later next, other ≠ next := by
    fin_cases hnext <;> decide
  exact hall other h

/-- What is ahead begins with the next packet. -/
theorem ahead_eq_cons (hstate : state ∈ .negotiate :: sessionOrder)
    (hfind : (onward state).find? (available options data) = some next)
    (hpackets : packets options data next = packet :: rest) :
    ahead options data state = packet :: ahead options (advance packet data) next := by
  have hnext := next_of_packets hpackets
  rcases onward_of_find? hstate hfind with ⟨states, honward, hempty, -⟩
  have hself := packets_advance_self hpackets
  have hlater : (later next).flatMap (packets options (advance packet data)) =
      (later next).flatMap (packets options data) := by
    apply List.flatMap_congr
    intro other hother
    exact packets_advance_of_ne hnext
      (ne_of_mem_later (mem_sessionOrder hnext.rank_pos hnext.rank_le) hother)
  rw [ahead, honward, List.flatMap_append, List.flatMap_eq_nil_iff.mpr hempty, List.nil_append,
    List.flatMap_cons, hpackets, ahead, onward]
  by_cases hrepeats : repeats next
  · rw [if_pos hrepeats] at hself
    rw [if_pos hrepeats, List.flatMap_cons, hself, hlater, List.cons_append]
  · rw [if_neg hrepeats] at hself
    rw [if_neg hrepeats, hself, hlater]
    rfl

/-- No command from `state` on is without a reply before one that is left out. -/
def GaplessFrom (options : Options) (o : MilterOption) (data : ProcessData)
    (state : ContextState) : Prop :=
  ∀ other ∈ state :: later state, other = state ∨ available options data other →
    replies o other = false → reaches o (available options data) (later other)

theorem reaches_congr {first second : ContextState → Bool} {states : List ContextState}
    (h : ∀ other ∈ states, first other = second other)
    (hdata : .unknown ∈ states → first .data = second .data) :
    reaches o first states = reaches o second states := by
  induction states with
  | nil => rfl
  | cons other states ih =>
      rw [reaches, reaches, h other List.mem_cons_self,
        ih (fun other hother => h other (List.mem_cons_of_mem _ hother))
          fun hmem => hdata (List.mem_cons_of_mem _ hmem)]
      by_cases hunknown : other = .unknown
      · rw [hdata (hunknown ▸ List.mem_cons_self)]
      · simp [hunknown]

theorem available_advance (h : Next options data next packet rest) {other : ContextState}
    (hother : other ≠ next) :
    available options (advance packet data) other = available options data other := by
  rw [available, available, packets_advance_of_ne h hother]

/-- The commands behind a later one are later. -/
theorem later_subset (hstate : state ∈ .negotiate :: sessionOrder) (h : next ∈ later state) :
    ∀ other ∈ later next, other ∈ later state := by
  have hall : ∀ next ∈ later state, ∀ other ∈ later next, other ∈ later state := by
    fin_cases hstate <;> decide
  exact hall next h

theorem data_mem_later (hstate : state ∈ .negotiate :: sessionOrder)
    (h : ContextState.unknown ∈ later state) : ContextState.data ∈ later state := by
  revert h
  fin_cases hstate <;> decide

/-- One packet more leaves what is behind it as it was. -/
theorem reaches_advance (h : Next options data next packet rest) (hnext : next ∈ sessionOrder)
    {other : ContextState} (hother : other ∈ next :: later next) :
    reaches o (available options (advance packet data)) (later other) =
      reaches o (available options data) (later other) := by
  have hsubset : ∀ behind ∈ later other, behind ∈ later next := by
    rcases List.mem_cons.mp hother with rfl | hlater
    · exact fun _ hbehind => hbehind
    · exact later_subset (List.mem_cons_of_mem _ hnext) hlater
  have hsame : ∀ behind ∈ later other,
      available options (advance packet data) behind = available options data behind :=
    fun behind hbehind => available_advance h (ne_of_mem_later hnext (hsubset behind hbehind))
  refine reaches_congr hsame fun hunknown => hsame _ ?_
  apply data_mem_later _ hunknown
  rcases List.mem_cons.mp hother with rfl | hlater
  · exact List.mem_cons_of_mem _ hnext
  · have hall : ∀ other ∈ later next, other ∈ ContextState.negotiate :: sessionOrder :=
      fun other hmem => List.mem_cons_of_mem _ (List.mem_of_mem_drop hmem)
    exact hall other hlater

/-- Whether a gap follows is not changed by a packet that is sent. -/
theorem gaplessFrom_iff (hstate : state ∈ .negotiate :: sessionOrder)
    (hfind : (onward state).find? (available options data) = some next)
    (hpackets : packets options data next = packet :: rest)
    (hreaches : replies o state = false →
      next = state ∨ reaches o (available options data) (later state)) :
    GaplessFrom options o data state ↔ GaplessFrom options o (advance packet data) next := by
  have hnext := next_of_packets hpackets
  have hmem := mem_sessionOrder hnext.rank_pos hnext.rank_le
  rcases onward_of_find? hstate hfind with ⟨states, honward, hempty, hne⟩
  have hbehind : next = state ∨ next ∈ later state := by
    have hmem' : next ∈ onward state := honward ▸ List.mem_append_right _ List.mem_cons_self
    rw [onward] at hmem'
    split at hmem'
    · exact List.mem_cons.mp hmem'
    · exact .inr hmem'
  have hsubset : ∀ other ∈ later next, other ∈ later state := by
    rcases hbehind with rfl | hlater
    · exact fun _ hother => hother
    · exact later_subset hstate hlater
  constructor
  · intro h other hother havailable hreplies
    rw [reaches_advance hnext hmem hother]
    rcases List.mem_cons.mp hother with rfl | hlater
    · rcases hbehind with rfl | hlater
      · exact h other List.mem_cons_self (.inl rfl) hreplies
      · exact h other (List.mem_cons_of_mem _ hlater) (.inr (available_iff.mpr hne)) hreplies
    · rw [available_advance hnext (ne_of_mem_later hmem hlater)] at havailable
      exact h other (List.mem_cons_of_mem _ (hsubset other hlater))
        (.inr (havailable.resolve_left (ne_of_mem_later hmem hlater))) hreplies
  · intro h other hother havailable hreplies
    have hfrom : ∀ other ∈ next :: later next, other = next ∨ available options data other →
        replies o other = false → reaches o (available options data) (later other) := by
      intro other hother havailable hreplies
      rw [← reaches_advance hnext hmem hother]
      apply h other hother _ hreplies
      by_cases heq : other = next
      · exact .inl heq
      · rw [available_advance hnext heq]
        exact .inr (havailable.resolve_left heq)
    rcases List.mem_cons.mp hother with rfl | hlater
    · rcases hreaches hreplies with rfl | hreaches
      · exact hfrom next List.mem_cons_self (.inl rfl) hreplies
      · exact hreaches
    · by_cases heq : other = next
      · exact hfrom other (heq ▸ List.mem_cons_self) (.inl heq) hreplies
      · by_cases hsame : other = state
        · subst hsame
          rcases hreaches hreplies with rfl | hreaches
          · exact absurd rfl heq
          · exact hreaches
        · have havailable' := havailable.resolve_left hsame
          have hmem' : other ∈ onward state := by
            rw [onward]
            split
            · exact List.mem_cons_of_mem _ hlater
            · exact hlater
          rw [honward] at hmem'
          rcases List.mem_append.mp hmem' with hbefore | hafter
          · exact absurd (hempty other hbefore) (available_iff.mp havailable')
          · exact hfrom other hafter (.inr havailable') hreplies

end Ahead

end MilterManager.Tool
