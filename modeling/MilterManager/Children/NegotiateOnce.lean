import MilterManager.Children.Callbacks
import MilterManager.Children.ConnectionKeeps

/-!
# One answer to a negotiation

Every child in the reply queue of a negotiation replies or is dropped, and the answer follows the
last of them. The functions that take a child out of the queue test only whether the queue is
empty afterwards: a child that leaves when the queue is empty already brings about a second
answer, and the last child of the queue that leaves through `remove_child_from_queue` brings about
none. In a run without such steps there is exactly one answer.
-/

namespace MilterManager.Children

open MilterManager.Base MilterManager.Core MilterManager.Server

/-- The data of a connection attempt. -/
def State.attempt (s : State) (attempt : Nat) : Option NegotiateData :=
  s.tryNegotiateIds.find? (·.id == attempt)

/-- A connection error after which the child is started and connected to once more. -/
def restarts (s : State) (data : NegotiateData) (domain : ErrorDomain) : Bool :=
  domain = .serverContext ∧ !data.isRetry ∧ s.privilegeMode ∧ s.launcher = .working ∧
    (s.context data.child).hasCommand

/-- The child that has replied to the negotiation, or is dropped, when a handler is entered. -/
def departing (before : State) (child : ChildId) : Callback → Option ChildId
  | .negotiateReply _ | .writingTimeout | .readingTimeout | .endOfMessageTimeout | .error _
  | .finished => some child
  | .connectionTimeout attempt => (before.attempt attempt).map (·.child)
  | .connectionError attempt domain =>
      (before.attempt attempt).bind fun data =>
        if restarts before data domain then none else some data.child
  | _ => none

/-- The child that an entry of a trace shows to have replied or to be dropped. -/
def departs : Action → Option ChildId
  | .called before child callback => departing before child callback
  | .unreachable _ child => some child
  | _ => none

/-- The child has replied or was dropped. -/
def departed (trace : List Action) (child : ChildId) : Bool :=
  trace.any fun action => departs action == some child

/-- An entry of a trace is an answer to the negotiation. -/
def isNegotiateReply : Action → Bool
  | .emitted _ (.negotiateReply _) => true
  | _ => false

/-- The state behind `compile_reply_status`. -/
def compiled (s : State) (state : ContextState) (status : Status) : State :=
  if isImportantStatus s state status then
    { s with replyStatuses := Function.update s.replyStatuses state status }
  else s

/-- The status of the command at hand when a child has fallen back. -/
def statusOnFallBack (s : State) (child : ChildId) : Status :=
  getReplyStatusForState (compiled s (s.context child).state (s.context child).fallbackStatus)
    s.processingState

/-- The status of the command at hand when a child has finished. -/
def statusOnFinish (s : State) (child : ChildId) : Status :=
  if (s.context child).isProcessing then statusOnFallBack s child
  else getReplyStatusForState s s.processingState

/-- A status that answers a negotiation when it is emitted. -/
def answersNegotiation (status : Status) : Bool :=
  status ≠ .notChange ∧ (statusToSignal status = .continue ∨ statusToSignal status = .reject)

/-- The child is not the last in the reply queue, or the answer was given and no status follows
it. -/
def fallsBackInTime (s : State) (child : ChildId) : Bool :=
  s.replyQueue.erase child ≠ [] ∨
    (s.replyQueue = [] ∧ !answersNegotiation (statusOnFallBack s child))

/-- A child leaves the negotiation while children are outstanding, and not by falling back when it
is the last of them. -/
def leavesInTime : Action → Bool
  | .called before child callback =>
      match callback with
      | .negotiateReply _ | .connectionTimeout _ | .connectionError _ _ =>
          departing before child callback = none ∨ before.replyQueue ≠ []
      | .finished =>
          if before.processingState = .negotiate then before.replyQueue ≠ []
          else !answersNegotiation (statusOnFinish before child)
      | .writingTimeout | .readingTimeout | .endOfMessageTimeout | .error _ =>
          fallsBackInTime before child
      | _ => true
  | .unreachable before _ => before.replyQueue ≠ []
  | _ => true

/-- What happens to connections and timers while the children negotiate. -/
def Event.isNegotiation : Event → Bool
  | .idle | .retry _ _ | .connected _ _ | .flushed _ | .timeout _ | .hangUp _ | .fail _
  | .failWriter _ | .stopOn _ _ _ => true
  | .reply _ (.negotiateReply _) => true
  | _ => false

/-- The callbacks that these events bring about. -/
def Callback.isNegotiation : Callback → Prop
  | .negotiateReply _ | .writingTimeout | .readingTimeout | .endOfMessageTimeout | .finished
  | .ready _ | .connectionTimeout _ => True
  | .error domain | .connectionError _ domain => domain ≠ .children
  | _ => False

/-- The signals that the leader does not answer the negotiation with. -/
def Signal.isQuiet : Signal → Bool
  | .negotiateReply _ | .continue | .replyCode _ _ _ | .reject | .error .children => false
  | _ => true

/-- The part of the state that decides about the answer. -/
structure NegotiationView where
  replyQueue : List ChildId
  finished : Bool
  option : Option Nat
  pendingMessageRequest : Option PendingMessageRequest
  replyCode : Nat
  processingState : ContextState
  lazyReplyNegotiate : Bool

/-- The part of a state that decides about the answer. -/
def State.negotiation (s : State) : NegotiationView where
  replyQueue := s.replyQueue
  finished := s.finished
  option := s.option
  pendingMessageRequest := s.pendingMessageRequest
  replyCode := s.replyCode
  processingState := s.processingState
  lazyReplyNegotiate := s.lazyReplyNegotiate

/-- The answer has been given: no child is outstanding and no idle source waits. -/
def NegotiationView.isAnswered (view : NegotiationView) : Bool :=
  view.replyQueue = [] ∧ !view.lazyReplyNegotiate

/-- Every answer in a trace came after all children had replied or been dropped. -/
def AnswersInTime (milters : List ChildId) (trace : List Action) : Prop :=
  ∀ front before option back, trace = front ++ .emitted before (.negotiateReply option) :: back →
    ∀ child ∈ milters, departed front child

/-- Every signal in a trace is an answer or one that the leader does not answer with. -/
def AnswersOnly (trace : List Action) : Prop :=
  ∀ before signal, .emitted before signal ∈ trace →
    isNegotiateReply (.emitted before signal) ∨ signal.isQuiet

/-- The invariant of a negotiation; `leaving` is the child that a handler is about to take out of
the reply queue, `answers` how many answers were given. -/
structure Negotiating (milters : List ChildId) (leaving : Option ChildId) (answers : Nat)
    (past : List Action) (view : NegotiationView) : Prop where
  notFinished : view.finished = false
  hasOption : view.option.isSome
  noPending : view.pendingMessageRequest = none
  noReplyCode : view.replyCode = 0
  processing : view.replyQueue ≠ [] → view.processingState = .negotiate
  phase : view.processingState = .start ∨ view.processingState = .negotiate ∨
    view.processingState = .abort
  lazy : view.lazyReplyNegotiate → milters = []
  nodup : view.replyQueue.Nodup
  subset : view.replyQueue ⊆ milters
  outstanding : ∀ child ∈ milters, leaving ≠ some child →
    (child ∈ view.replyQueue ↔ departed past child = false)
  gone : ∀ child, leaving = some child → departed past child
  count : past.countP isNegotiateReply = answers
  inTime : AnswersInTime milters past
  only : AnswersOnly past

/-- The number of answers that a state asks for. -/
def NegotiationView.answers (view : NegotiationView) : Nat :=
  if view.isAnswered then 1 else 0

/-- All steps of a trace met the condition. -/
def AllInTime (trace : List Action) : Prop := ∀ action ∈ trace, leavesInTime action

/-- The invariant of the steps of a negotiation. -/
def negotiationInvariant (milters : List ChildId) (leaving : Option ChildId)
    (past : List Action) (s : State) : Prop :=
  AllInTime past → Negotiating milters leaving s.negotiation.answers past s.negotiation

section Traces

variable {milters : List ChildId} {past : List Action} {child : ChildId}

@[simp] theorem departed_append (front back : List Action) :
    departed (front ++ back) child = (departed front child || departed back child) := by
  simp [departed]

theorem departed_of_departs {action : Action} (h : departs action = some child) :
    departed (past ++ [action]) child = true := by
  simp [departed, h]

/-- An entry that is no answer keeps the answers in time. -/
theorem AnswersInTime.append {action : Action} (h : AnswersInTime milters past)
    (haction : isNegotiateReply action = false) : AnswersInTime milters (past ++ [action]) := by
  intro front before option back hsplit
  rcases List.eq_nil_or_concat back with rfl | ⟨init, last, rfl⟩
  · have hlast := List.append_inj' hsplit rfl
    obtain rfl : action = .emitted before (.negotiateReply option) := by simpa using hlast.2
    simp [isNegotiateReply] at haction
  · rw [List.concat_eq_append, ← List.cons_append, ← List.append_assoc] at hsplit
    exact h front before option init (List.append_inj' hsplit rfl).1

/-- An answer after all children have departed is in time. -/
theorem AnswersInTime.answer {s : State} {option : MilterOption} (h : AnswersInTime milters past)
    (hall : ∀ child ∈ milters, departed past child) :
    AnswersInTime milters (past ++ [.emitted s (.negotiateReply option)]) := by
  intro front before option' back hsplit
  rcases List.eq_nil_or_concat back with rfl | ⟨init, last, rfl⟩
  · obtain ⟨rfl, -⟩ := List.append_inj' hsplit rfl
    exact hall
  · rw [List.concat_eq_append, ← List.cons_append, ← List.append_assoc] at hsplit
    exact h front before option' init (List.append_inj' hsplit rfl).1

theorem AnswersOnly.append {action : Action} (h : AnswersOnly past)
    (haction : ∀ before signal, action = .emitted before signal →
      isNegotiateReply (.emitted before signal) ∨ signal.isQuiet) :
    AnswersOnly (past ++ [action]) := by
  intro before signal hmem
  rcases List.mem_append.mp hmem with hmem | hmem
  · exact h before signal hmem
  · exact haction before signal (List.mem_singleton.mp hmem).symm

theorem AllInTime.of_append {front back : List Action} (h : AllInTime (front ++ back)) :
    AllInTime front :=
  fun action hmem => h action (List.mem_append_left back hmem)

theorem AllInTime.last {action : Action} (h : AllInTime (past ++ [action])) :
    leavesInTime action = true :=
  h action (by simp)

end Traces

namespace Negotiating

variable {milters : List ChildId} {leaving : Option ChildId} {answers : Nat}
variable {past : List Action} {view : NegotiationView}

/-- What an entry shows to depart is leaving from then on. -/
theorem enter {action : Action} (h : Negotiating milters none answers past view)
    (hreply : isNegotiateReply action = false)
    (hquiet : ∀ before signal, action = .emitted before signal → signal.isQuiet) :
    Negotiating milters (departs action) answers (past ++ [action]) view where
  notFinished := h.notFinished
  hasOption := h.hasOption
  noPending := h.noPending
  noReplyCode := h.noReplyCode
  processing := h.processing
  phase := h.phase
  lazy := h.lazy
  nodup := h.nodup
  subset := h.subset
  outstanding := by
    intro child hmem hleaving
    rw [h.outstanding child hmem (by simp)]
    simp [departed, hleaving]
  gone := fun child hchild => departed_of_departs hchild
  count := by simp [h.count, hreply]
  inTime := h.inTime.append hreply
  only := h.only.append fun before signal hsignal => .inr (hquiet before signal hsignal)

/-- An entry about no child and no answer changes nothing. -/
theorem append {action : Action} (h : Negotiating milters leaving answers past view)
    (hdeparts : departs action = none) (hreply : isNegotiateReply action = false)
    (hquiet : ∀ before signal, action = .emitted before signal → signal.isQuiet) :
    Negotiating milters leaving answers (past ++ [action]) view :=
  { h with
    outstanding := by
      intro child hmem hleaving
      rw [h.outstanding child hmem hleaving]
      simp [departed, hdeparts]
    gone := by
      intro child hchild
      simp [h.gone child hchild]
    count := by simp [h.count, hreply]
    inTime := h.inTime.append hreply
    only := h.only.append fun before signal hsignal => .inr (hquiet before signal hsignal) }

/-- The child that leaves is taken out of the reply queue. -/
theorem erase {child : ChildId} (h : Negotiating milters (some child) answers past view) :
    Negotiating milters none answers past { view with replyQueue := view.replyQueue.erase child } :=
  { h with
    processing := fun hne => h.processing fun hnil => hne (by simp [hnil])
    nodup := h.nodup.erase child
    subset := fun other hmem => h.subset (List.mem_of_mem_erase hmem)
    outstanding := by
      intro other hmem _
      by_cases heq : other = child
      · subst heq
        simp [h.nodup.not_mem_erase, h.gone other rfl]
      · rw [List.mem_erase_of_ne heq]
        exact h.outstanding other hmem (by simpa using fun h => heq h.symm)
    gone := by simp }

/-- With nobody outstanding everybody has departed. -/
theorem all_departed (h : Negotiating milters leaving answers past view)
    (hqueue : view.replyQueue = []) : ∀ child ∈ milters, departed past child := by
  intro child hmem
  by_cases hleaving : leaving = some child
  · exact h.gone child hleaving
  · have := h.outstanding child hmem hleaving
    simpa [hqueue] using this

/-- The answer is given when all have departed. -/
theorem answer {s : State} {option : MilterOption}
    (h : Negotiating milters leaving 0 past view) (hqueue : view.replyQueue = []) :
    Negotiating milters none 1 (past ++ [.emitted s (.negotiateReply option)]) view :=
  { h with
    outstanding := by
      intro child hmem _
      simp [hqueue, h.all_departed hqueue child hmem]
    gone := by simp
    count := by simp [h.count, isNegotiateReply]
    inTime := h.inTime.answer (h.all_departed hqueue)
    only := h.only.append fun before signal hsignal => .inl (by cases hsignal; rfl) }

end Negotiating

section Steps

variable {milters : List ChildId} {leaving : Option ChildId} {call : Handlers} {child : ChildId}

/-- A change of what does not decide about the answer. -/
theorem keeps_negotiation_update {f : State → State} (h : ∀ s, (f s).negotiation = s.negotiation) :
    Proc.Keeps (negotiationInvariant milters leaving) (Proc.update f) := by
  refine Proc.Keeps.update fun past s hinv => ?_
  unfold negotiationInvariant
  rw [h s]
  exact hinv

theorem keeps_negotiation_record {entry : State → Action}
    (hdeparts : ∀ s, departs (entry s) = none) (hreply : ∀ s, isNegotiateReply (entry s) = false)
    (hquiet : ∀ s before signal, entry s = .emitted before signal → signal.isQuiet) :
    Proc.Keeps (negotiationInvariant milters leaving) (Proc.record entry) := by
  refine Proc.Keeps.record fun past s hinv hall => ?_
  exact (hinv hall.of_append).append (hdeparts s) (hreply s) (hquiet s)

theorem keeps_negotiation_updateContext {f : Context → Context} :
    Proc.Keeps (negotiationInvariant milters leaving) (updateContext child f) :=
  keeps_negotiation_update fun _ => rfl

theorem keeps_negotiation_emitSignal {signal : Signal} (hquiet : signal.isQuiet) :
    Proc.Keeps (negotiationInvariant milters leaving) (emitSignal signal) := by
  refine keeps_negotiation_record (fun _ => rfl) (fun _ => ?_) fun s before other heq => ?_
  · cases signal with
    | negotiateReply => cases hquiet
    | _ => rfl
  · cases heq
    exact hquiet

theorem keeps_negotiation_expireChild :
    Proc.Keeps (negotiationInvariant milters leaving) (expireChild child) :=
  keeps_negotiation_updateContext

theorem keeps_negotiation_checkFallbackStatus :
    Proc.Keeps (negotiationInvariant milters leaving) checkFallbackStatusOnNegotiate := by
  unfold checkFallbackStatusOnNegotiate
  refine Proc.Keeps.getState.bind fun s => ?_
  split
  case h_4 => exact Proc.Keeps.pure _
  all_goals
    refine Proc.Keeps.each _ fun child _ => (keeps_contextOf _).bind fun context => ?_
    refine Proc.Keeps.ite ?_ (Proc.Keeps.pure _)
    exact Proc.Keeps.bind (keeps_negotiation_update fun _ => rfl) fun _ =>
      keeps_negotiation_expireChild

theorem keeps_negotiation_dispose :
    Proc.Keeps (negotiationInvariant milters leaving) disposeMessageRelatedData := by
  unfold disposeMessageRelatedData
  apply Proc.Keeps.bind (keeps_negotiation_record (fun _ => rfl) (fun _ => rfl) (by simp))
  intro _
  refine Proc.Keeps.bind ?_ fun _ => ?_
  · exact Proc.Keeps.update fun past s hinv hall => { hinv hall with noPending := rfl }
  refine Proc.Keeps.bind (keeps_negotiation_update fun _ => rfl) fun _ => ?_
  exact Proc.Keeps.bind (keeps_negotiation_update fun _ => rfl) fun _ =>
    keeps_negotiation_update fun _ => rfl

/-- The answer, when all children have departed and none was given. -/
theorem triple_replyNegotiate :
    Proc.Triple
      (fun past s => AllInTime past → Negotiating milters leaving 0 past s.negotiation ∧
        s.negotiation.isAnswered)
      replyNegotiate (fun _ => negotiationInvariant milters none) := by
  unfold replyNegotiate
  refine Proc.Triple.getState fun s => ?_
  split
  · next hoption =>
      rintro past _ ⟨hpre, rfl⟩ hall
      have hnone := (hpre hall.of_append).1.hasOption
      simp [State.negotiation, hoption] at hnone
  · next option hoption =>
      refine Proc.Triple.bind (fun _ past s => AllInTime past →
        Negotiating milters leaving 0 past s.negotiation ∧ s.negotiation.isAnswered) ?_ fun _ => ?_
      · exact Proc.Triple.update fun past t h => h.1
      refine Proc.Triple.getState fun t => ?_
      refine Proc.Triple.bind (fun _ => negotiationInvariant milters none) ?_ fun _ =>
        keeps_negotiation_checkFallbackStatus
      refine Proc.Triple.record ?_
      rintro past _ ⟨hpre, rfl⟩ hall
      obtain ⟨hinv, hanswered⟩ := hpre hall.of_append
      rw [NegotiationView.answers, if_pos hanswered]
      refine hinv.answer ?_
      simp only [NegotiationView.isAnswered, decide_eq_true_eq] at hanswered
      exact hanswered.1

/-- A child leaves while somebody is outstanding. -/
theorem triple_removeQueueInNegotiate :
    Proc.Triple
      (fun past s => AllInTime past →
        Negotiating milters (some child) s.negotiation.answers past s.negotiation ∧
        s.replyQueue ≠ [])
      (removeQueueInNegotiate child) (fun _ => negotiationInvariant milters none) := by
  unfold removeQueueInNegotiate
  refine Proc.Triple.bind (fun _ past s => AllInTime past →
    Negotiating milters none 0 past s.negotiation ∧ s.negotiation.lazyReplyNegotiate = false) ?_
    fun _ => Proc.Triple.getState fun s => ?_
  · refine Proc.Triple.update fun past s hpre hall => ?_
    obtain ⟨hinv, hqueue⟩ := hpre hall
    have hanswers : s.negotiation.answers = 0 := by
      simp [NegotiationView.answers, NegotiationView.isAnswered, State.negotiation, hqueue]
    rw [hanswers] at hinv
    refine ⟨hinv.erase, ?_⟩
    refine Bool.eq_false_iff.mpr fun hlazy => ?_
    have hsubset := hinv.subset
    rw [hinv.lazy hlazy] at hsubset
    exact hqueue (List.subset_nil.mp hsubset)
  · refine Proc.Triple.ite (fun hanswer => ?_) fun hwait => Proc.Triple.pure ?_
    · refine (@triple_replyNegotiate milters none).weaken ?_
      rintro past t ⟨hpre, rfl⟩ hall
      obtain ⟨hinv, hlazy⟩ := hpre hall
      refine ⟨hinv, ?_⟩
      have hqueue : t.negotiation.replyQueue = [] := hanswer.2
      simp [NegotiationView.isAnswered, hqueue, hlazy]
    · rintro past t ⟨hpre, rfl⟩ hall
      obtain ⟨hinv, hlazy⟩ := hpre hall
      have hanswers : t.negotiation.answers = 0 := by
        have hfinished : t.finished = false := hinv.notFinished
        simp only [hfinished, Bool.not_false, true_and] at hwait
        simp [NegotiationView.answers, NegotiationView.isAnswered, State.negotiation, hwait]
      rw [hanswers]
      exact hinv

/-- After the answer the children may abort. -/
theorem triple_childrenAbort
    (hcall : ConnectionKeeps (.keeps (negotiationInvariant milters none)) call (fun _ => True)
      Callback.isNegotiation) :
    Proc.Triple
      (fun past s => negotiationInvariant milters none past s ∧
        (AllInTime past → s.replyQueue = []))
      (childrenAbort call) (fun _ => negotiationInvariant milters none) := by
  unfold childrenAbort
  refine Proc.Triple.bind (fun _ => negotiationInvariant milters none) ?_ fun _ => ?_
  · refine Proc.Triple.update fun past s hpre hall => ?_
    exact { hpre.1 hall with
      processing := fun hne => absurd (hpre.2 hall) hne
      phase := .inr (.inr rfl) }
  refine Proc.Keeps.getState.bind fun s => ?_
  refine Proc.Keeps.bind (Proc.Keeps.each _ fun other _ => ?_) fun _ => ?_
  · refine (keeps_contextOf _).bind fun context => Proc.Keeps.ite ?_ (Proc.Keeps.pure _)
    exact hcall.of_serverAbort.bind fun _ => Proc.Keeps.pure _
  refine Proc.Keeps.bind keeps_negotiation_dispose fun _ => Proc.Keeps.each _ fun other _ => ?_
  exact (keeps_contextOf _).bind fun context =>
    Proc.Keeps.ite keeps_negotiation_updateContext (Proc.Keeps.pure _)

/-- The status of a command that nobody waits for any more. -/
theorem triple_emitReplyStatusOfState {state : ContextState} :
    Proc.Triple
      (fun past s => Negotiating milters none s.negotiation.answers past s.negotiation ∧
        s.replyQueue = [] ∧ answersNegotiation (getReplyStatusForState s state) = false)
      (emitReplyStatusOfState state)
      (fun _ past s => negotiationInvariant milters none past s ∧
        (AllInTime past → s.replyQueue = [])) := by
  unfold emitReplyStatusOfState
  refine Proc.Triple.getState fun s => ?_
  refine Proc.Triple.bind (fun _ past s => negotiationInvariant milters none past s ∧
    s.replyQueue = []) ?_ fun _ => ?_
  · rintro past t ⟨⟨hinv, hqueue, hstatus⟩, rfl⟩
    have hcode : t.replyCode = 0 := hinv.noReplyCode
    have hfits : replyCodeFits t (getReplyStatusForState t state) = false := by
      simp [replyCodeFits, hcode]
    simp only [emitReplyStatus, hfits, Bool.false_eq_true, if_false, Proc.when]
    split
    · next hchange =>
        refine ⟨?_, hqueue⟩
        refine keeps_negotiation_emitSignal ?_ past t fun _ => hinv
        generalize getReplyStatusForState t state = status at hstatus hchange
        cases status <;> simp_all [answersNegotiation, statusToSignal, Signal.isQuiet]
    · exact ⟨by simpa [negotiationInvariant] using fun _ => hinv, hqueue⟩
  · refine Proc.Triple.ite (fun _ => ?_) fun _ => Proc.Triple.pure fun past s h =>
      ⟨h.1, fun _ => h.2⟩
    rintro past t ⟨hinv, hqueue⟩
    exact ⟨keeps_negotiation_dispose past t hinv, fun _ => hqueue⟩

/-- A child that falls back leaves the reply queue. -/
theorem triple_removeChildFromQueue
    (hcall : ConnectionKeeps (.keeps (negotiationInvariant milters none)) call
      (fun _ => True) Callback.isNegotiation) :
    Proc.Triple
      (fun past s => AllInTime past →
        Negotiating milters (some child) s.negotiation.answers past s.negotiation ∧
        (s.replyQueue.erase child ≠ [] ∨ (s.replyQueue = [] ∧
          answersNegotiation (getReplyStatusForState s s.processingState) = false)))
      (removeChildFromQueue call child) (fun _ => negotiationInvariant milters none) := by
  refine Proc.Triple.assuming (fun _ _ h => h.of_append) ?_
  unfold removeChildFromQueue
  refine Proc.Triple.bind (fun _ past s => Negotiating milters none s.negotiation.answers past
    s.negotiation ∧ (s.replyQueue = [] →
      answersNegotiation (getReplyStatusForState s s.processingState) = false)) ?_ fun _ => ?_
  · refine Proc.Triple.update ?_
    rintro past s ⟨-, hinv, hqueue⟩
    refine ⟨?_, fun hnil => ?_⟩
    · have herase := hinv.erase
      rcases hqueue with hqueue | ⟨hqueue, -⟩
      · have hne : s.replyQueue ≠ [] := fun hnil => hqueue (by simp [hnil])
        simpa [NegotiationView.answers, NegotiationView.isAnswered, State.negotiation, hne, hqueue]
          using herase
      · simpa [NegotiationView.answers, NegotiationView.isAnswered, State.negotiation, hqueue]
          using herase
    · rcases hqueue with hqueue | ⟨-, hstatus⟩
      · exact absurd hnil hqueue
      · exact hstatus
  refine Proc.Triple.getState fun s => Proc.Triple.ite
    (fun hqueue => Proc.Triple.pure ?_) fun hqueue => ?_
  · rintro past t ⟨⟨hinv, -⟩, rfl⟩
    exact fun _ => hinv
  refine Proc.Triple.bind (fun processed past t => processed = false ∧
    Negotiating milters none t.negotiation.answers past t.negotiation ∧ t.replyQueue = [] ∧
      answersNegotiation (getReplyStatusForState t t.processingState) = false) ?_
    fun processed => ?_
  · rintro past t ⟨⟨hinv, hstatus⟩, rfl⟩
    have hnil : t.replyQueue = [] := by simpa using hqueue
    have hpending : t.pendingMessageRequest = none := hinv.noPending
    simp only [resumePendingMessageRequest, Proc.bind_apply, Proc.getState_apply, hpending,
      Proc.pure_apply, List.append_nil]
    exact ⟨trivial, hinv, hnil, hstatus hnil⟩
  refine Proc.Triple.ite (fun hprocessed => Proc.Triple.pure ?_) fun _ =>
    Proc.Triple.getState fun t => ?_
  · rintro past t ⟨hnot, -⟩
    exact absurd hprocessed (by simp [hnot])
  refine Proc.Triple.bind _ ((@triple_emitReplyStatusOfState milters _).weaken ?_) fun _ =>
    Proc.Triple.getState fun u => ?_
  · rintro past u ⟨⟨-, hinv, hqueue, hstatus⟩, rfl⟩
    exact ⟨hinv, hqueue, hstatus⟩
  refine Proc.Triple.bind (fun _ => negotiationInvariant milters none) ?_ fun _ =>
    Proc.Keeps.pure _
  refine Proc.Triple.ite (fun _ => ?_) fun _ => Proc.Triple.pure fun past v h => h.1.1
  exact (triple_childrenAbort hcall).weaken fun past v h => h.1

theorem compileReplyStatus_eq (state : ContextState) (status : Status) :
    compileReplyStatus state status = Proc.update (compiled · state status) := by
  funext s
  by_cases h : isImportantStatus s state status <;>
    simp [compileReplyStatus, compiled, setReplyStatus, h]

@[simp] theorem compiled_negotiation (s : State) (state : ContextState) (status : Status) :
    (compiled s state status).negotiation = s.negotiation := by
  unfold compiled
  split <;> rfl

/-- What a handler does with the data of one child. -/
theorem triple_contextOf {pre : List Action → State → Prop} {α : Type}
    {post : α → List Action → State → Prop} {f : Context → Program α}
    (h : ∀ s, Proc.Triple (fun past t => pre past t ∧ t = s) (f (s.context child)) post) :
    Proc.Triple pre (contextOf child >>= f) post := by
  intro past s hpre
  simpa [contextOf] using h s past s ⟨hpre, rfl⟩

theorem triple_fallBack
    (hcall : ConnectionKeeps (.keeps (negotiationInvariant milters none)) call
      (fun _ => True) Callback.isNegotiation) :
    Proc.Triple
      (fun past s => AllInTime past →
        Negotiating milters (some child) s.negotiation.answers past s.negotiation ∧
        fallsBackInTime s child)
      (fallBack call child) (fun _ => negotiationInvariant milters none) := by
  unfold fallBack
  refine triple_contextOf fun s => ?_
  rw [compileReplyStatus_eq]
  refine Proc.Triple.bind (fun _ past t => AllInTime past →
      Negotiating milters (some child) t.negotiation.answers past t.negotiation ∧
      (t.replyQueue.erase child ≠ [] ∨ (t.replyQueue = [] ∧
        answersNegotiation (getReplyStatusForState t t.processingState) = false))) ?_ fun _ => ?_
  · refine Proc.Triple.update ?_
    rintro past t ⟨hpre, rfl⟩ hall
    obtain ⟨hinv, htime⟩ := hpre hall
    rw [compiled_negotiation]
    refine ⟨hinv, ?_⟩
    have hqueue : (compiled t (t.context child).state (t.context child).fallbackStatus).replyQueue =
        t.replyQueue := congrArg NegotiationView.replyQueue (compiled_negotiation ..)
    have hprocessing :
        (compiled t (t.context child).state (t.context child).fallbackStatus).processingState =
        t.processingState := congrArg NegotiationView.processingState (compiled_negotiation ..)
    rw [hqueue, hprocessing]
    simpa [fallsBackInTime, statusOnFallBack] using htime
  refine Proc.Triple.after (Proc.Triple.update fun past t h => h) fun _ => ?_
  exact Proc.Triple.bind _ (triple_removeChildFromQueue hcall) fun _ => Proc.Keeps.pure _

theorem triple_clearTryNegotiateData {data : NegotiateData} :
    Proc.Triple
      (fun past s => AllInTime past →
        Negotiating milters (some data.child) s.negotiation.answers past s.negotiation ∧
        s.replyQueue ≠ [])
      (clearTryNegotiateData data) (fun _ => negotiationInvariant milters none) :=
  Proc.Triple.bind _ triple_removeQueueInNegotiate fun _ =>
    keeps_negotiation_expireChild.bind fun _ => Proc.Keeps.update fun _ _ h => h

theorem triple_cbNegotiateReply {reply : MilterOption} :
    Proc.Triple
      (fun past s => AllInTime past →
        Negotiating milters (some child) s.negotiation.answers past s.negotiation ∧
        s.replyQueue ≠ [])
      (cbNegotiateReply child reply) (fun _ => negotiationInvariant milters none) := by
  unfold cbNegotiateReply
  refine Proc.Triple.getState fun s => ?_
  refine Proc.Triple.bind _ ?_ fun _ => triple_removeQueueInNegotiate
  split
  · next hoption =>
      rintro past t ⟨hpre, rfl⟩ hall
      have hnone := (hpre hall.of_append).1.hasOption
      simp [State.negotiation, hoption] at hnone
  · exact Proc.Triple.update fun past t h => h.1

theorem startChild_apply (s : State) :
    ((startChild child s).value = true ↔ s.launcher = .working ∧ (s.context child).hasCommand) ∧
      (startChild child s).state = s := by
  unfold startChild
  cases hlauncher : s.launcher <;> cases hcommand : (s.context child).hasCommand <;>
    simp [hlauncher, hcommand, emitSignal]

theorem triple_cbFinished
    (hcall : ConnectionKeeps (.keeps (negotiationInvariant milters none)) call
      (fun _ => True) Callback.isNegotiation) :
    Proc.Triple
      (fun past s => AllInTime past →
        Negotiating milters (some child) s.negotiation.answers past s.negotiation ∧
        leavesInTime (.called s child .finished))
      (cbFinished call child) (fun _ => negotiationInvariant milters none) := by
  unfold cbFinished
  refine triple_contextOf fun s => ?_
  refine Proc.Triple.bind (fun _ past t => AllInTime past →
      Negotiating milters (some child) t.negotiation.answers past t.negotiation ∧
      (t.processingState = .negotiate → t.replyQueue ≠ []) ∧
      (t.processingState ≠ .negotiate →
        answersNegotiation (getReplyStatusForState t t.processingState) = false)) ?_ fun _ => ?_
  · rintro past t ⟨hpre, rfl⟩ hall
    obtain ⟨hinv, htime⟩ := hpre hall.of_append
    by_cases hprocessing : (t.context child).isProcessing
    · have hview := compiled_negotiation t (t.context child).state (t.context child).fallbackStatus
      have hqueue := congrArg NegotiationView.replyQueue hview
      have hstate := congrArg NegotiationView.processingState hview
      simp only [State.negotiation] at hqueue hstate
      simp only [Proc.when, hprocessing, if_true, compileReplyStatus_eq, Proc.update_apply,
        List.append_nil, hview, hqueue, hstate]
      refine ⟨hinv, fun hnegotiate => ?_, fun hnegotiate => ?_⟩
      · simpa [leavesInTime, hnegotiate] using htime
      · simpa [leavesInTime, hnegotiate, statusOnFinish, hprocessing, statusOnFallBack] using htime
    · simp only [Proc.when, hprocessing, Bool.false_eq_true, if_false, Proc.pure_apply,
        List.append_nil]
      refine ⟨hinv, fun hnegotiate => ?_, fun hnegotiate => ?_⟩
      · simpa [leavesInTime, hnegotiate] using htime
      · simpa [leavesInTime, hnegotiate, statusOnFinish, hprocessing] using htime
  refine Proc.Triple.after (Proc.Triple.update fun past t h => h) fun _ =>
    Proc.Triple.getState fun u => ?_
  split
  · next hnegotiate =>
      refine triple_removeQueueInNegotiate.weaken ?_
      rintro past t ⟨hpre, rfl⟩ hall
      exact ⟨(hpre hall).1, (hpre hall).2.1 hnegotiate⟩
  case h_6 hother _ _ _ _ =>
    refine Proc.Triple.bind _ ((triple_removeChildFromQueue hcall).weaken ?_) fun _ =>
      Proc.Keeps.pure _
    rintro past t ⟨hpre, rfl⟩ hall
    obtain ⟨hinv, -, hquiet⟩ := hpre hall
    refine ⟨hinv, .inr ⟨?_, hquiet hother⟩⟩
    by_contra hqueue
    exact hother (hinv.processing hqueue)
  all_goals
    rintro past t ⟨hpre, rfl⟩ hall
    have hphase := (hpre hall.of_append).1.phase
    simp_all [State.negotiation]

theorem withAttempt_apply (attempt : Nat) (handle : NegotiateData → Program PUnit) (s : State) :
    withAttempt attempt handle s =
      match s.attempt attempt with
      | none => ⟨⟨⟩, s, []⟩
      | some data => handle data s := by
  cases h : s.attempt attempt with
  | none =>
      rw [State.attempt] at h
      simp [withAttempt, h]
  | some data =>
      rw [State.attempt] at h
      simp [withAttempt, h]

/-- A handler that lets nobody leave begins with the invariant itself. -/
theorem negotiationInvariant_of_departing {past : List Action} {s : State} {callback : Callback}
    (h : AllInTime past →
      Negotiating milters (departing s child callback) s.negotiation.answers past s.negotiation ∧
      leavesInTime (.called s child callback))
    (hdeparting : departing s child callback = none) :
    negotiationInvariant milters none past s := by
  intro hall
  rw [← hdeparting]
  exact (h hall).1

theorem triple_cbConnectionTimeout {attempt : Nat} :
    Proc.Triple
      (fun past s => AllInTime past →
        Negotiating milters (departing s child (.connectionTimeout attempt))
          s.negotiation.answers past s.negotiation ∧
        leavesInTime (.called s child (.connectionTimeout attempt)))
      (cbConnectionTimeout attempt) (fun _ => negotiationInvariant milters none) := by
  intro past s hpre
  unfold cbConnectionTimeout
  rw [withAttempt_apply]
  cases hattempt : s.attempt attempt with
  | none =>
      simpa using negotiationInvariant_of_departing hpre (by simp [departing, hattempt])
  | some data =>
      refine triple_clearTryNegotiateData past s fun hall => ?_
      have hdeparting : departing s child (.connectionTimeout attempt) = some data.child := by
        simp [departing, hattempt]
      obtain ⟨hinv, htime⟩ := hpre hall
      rw [hdeparting] at hinv
      exact ⟨hinv, by simpa [leavesInTime, hdeparting] using htime⟩

theorem keeps_negotiation_startChild :
    Proc.Keeps (negotiationInvariant milters leaving) (startChild child) := by
  unfold startChild
  refine Proc.Keeps.getState.bind fun s => Proc.Keeps.ite (Proc.Keeps.pure _) ?_
  refine Proc.Keeps.ite (Proc.Keeps.pure _) (Proc.Keeps.ite ?_ (Proc.Keeps.pure _))
  exact (keeps_negotiation_emitSignal rfl).bind fun _ => Proc.Keeps.pure _

/-- After an error of its connection a child is dropped unless all conditions of a restart
hold. -/
theorem triple_retryOrClear {data : NegotiateData} {domain : ErrorDomain}
    (hdomain : domain ≠ .children) :
    Proc.Triple
      (fun past s =>
        (restarts s data domain = false → AllInTime past →
          Negotiating milters (some data.child) s.negotiation.answers past s.negotiation ∧
          s.replyQueue ≠ []) ∧
        (restarts s data domain = true → negotiationInvariant milters none past s))
      (retryOrClear data domain) (fun _ => negotiationInvariant milters none) := by
  unfold retryOrClear
  refine Proc.Triple.getState fun s => Proc.Triple.ite (fun hfinal => ?_) fun hretry => ?_
  · have hrestarts : restarts s data domain = false := by
      rcases hfinal with hfinal | hfinal <;> simp [restarts, hfinal]
    refine Proc.Triple.bind _ ?_ fun _ => triple_clearTryNegotiateData
    refine Proc.Triple.record ?_
    rintro past t ⟨hpre, rfl⟩ hall
    obtain ⟨hinv, hqueue⟩ := hpre.1 hrestarts hall.of_append
    refine ⟨hinv.append rfl rfl fun before signal heq => ?_, hqueue⟩
    cases heq
    cases domain <;> first | rfl | exact absurd rfl hdomain
  refine Proc.Triple.ite (fun hprivilege => ?_) fun hprivilege => ?_
  · refine triple_clearTryNegotiateData.weaken ?_
    rintro past t ⟨hpre, rfl⟩
    exact hpre.1 (by simp_all [restarts])
  refine Proc.Triple.bind (fun started past t => if started then
      negotiationInvariant milters none past t
    else AllInTime past →
      Negotiating milters (some data.child) t.negotiation.answers past t.negotiation ∧
      t.replyQueue ≠ []) ?_ fun started => ?_
  · rintro past t ⟨⟨hdropped, hkept⟩, rfl⟩
    obtain ⟨hvalue, hstate⟩ := @startChild_apply data.child t
    cases hstarted : (startChild data.child t).value with
    | true =>
        refine keeps_negotiation_startChild past t (hkept ?_)
        simp_all [restarts]
    | false =>
        have hrestarts : restarts t data domain = false := by
          simp_all [restarts]
        simp only [Bool.false_eq_true, if_false]
        intro hall
        obtain ⟨-, hqueue⟩ := hdropped hrestarts hall.of_append
        refine ⟨keeps_negotiation_startChild past t (fun hpast => ?_) hall, by rwa [hstate]⟩
        exact (hdropped hrestarts hpast).1
  cases started with
  | false => exact triple_clearTryNegotiateData
  | true => exact Proc.Keeps.bind (Proc.Keeps.update fun _ _ h => h) fun _ =>
      Proc.Keeps.update fun _ _ h => h

theorem triple_cbConnectionError {attempt : Nat} {domain : ErrorDomain}
    (hdomain : domain ≠ .children) :
    Proc.Triple
      (fun past s => AllInTime past →
        Negotiating milters (departing s child (.connectionError attempt domain))
          s.negotiation.answers past s.negotiation ∧
        leavesInTime (.called s child (.connectionError attempt domain)))
      (cbConnectionError attempt domain) (fun _ => negotiationInvariant milters none) := by
  intro past s hpre
  unfold cbConnectionError
  rw [withAttempt_apply]
  cases hattempt : s.attempt attempt with
  | none =>
      simpa using negotiationInvariant_of_departing hpre (by simp [departing, hattempt])
  | some data =>
      have hdeparting : departing s child (.connectionError attempt domain) =
          if restarts s data domain then none else some data.child := by
        simp [departing, hattempt]
      -- The child is dropped unless all conditions of a restart hold.
      have hdropped (hrestarts : restarts s data domain = false) : AllInTime past →
          Negotiating milters (some data.child) s.negotiation.answers past s.negotiation ∧
          s.replyQueue ≠ [] := by
        intro hall
        obtain ⟨hinv, htime⟩ := hpre hall
        simp only [hrestarts, Bool.false_eq_true, if_false] at hdeparting
        rw [hdeparting] at hinv
        exact ⟨hinv, by simpa [leavesInTime, hdeparting] using htime⟩
      refine triple_retryOrClear hdomain past s ⟨hdropped, fun hrestarts => ?_⟩
      exact negotiationInvariant_of_departing hpre (by simp [hdeparting, hrestarts])

theorem keeps_cbReady
    (hcall : ConnectionKeeps (.keeps (negotiationInvariant milters none)) call
      (fun _ => True) Callback.isNegotiation)
    {attempt : Nat} : Proc.Keeps (negotiationInvariant milters none) (cbReady call attempt) := by
  intro past s hinv
  unfold cbReady
  rw [withAttempt_apply]
  cases s.attempt attempt with
  | none => simpa using hinv
  | some data =>
      refine Proc.Keeps.bind keeps_negotiation_updateContext (fun _ => ?_) past s hinv
      refine Proc.Keeps.getState.bind fun t => ?_
      refine (hcall.of_serverNegotiate keeps_negotiation_updateContext
        (keeps_negotiation_record (fun _ => rfl) (fun _ => rfl) (by simp))
        keeps_negotiation_updateContext).bind fun _ => ?_
      exact Proc.Keeps.update fun _ _ h => h

/-- Every handler leads back to the invariant. -/
theorem triple_handle
    (hcall : ConnectionKeeps (.keeps (negotiationInvariant milters none)) call
      (fun _ => True) Callback.isNegotiation)
    {callback : Callback} (hcallback : callback.isNegotiation) :
    Proc.Triple
      (fun past s => AllInTime past →
        Negotiating milters (departing s child callback) s.negotiation.answers past s.negotiation ∧
        leavesInTime (.called s child callback))
      (handle call child callback) (fun _ => negotiationInvariant milters none) := by
  cases callback with
  | negotiateReply reply =>
      refine triple_cbNegotiateReply.weaken fun past s hpre hall => ?_
      obtain ⟨hinv, htime⟩ := hpre hall
      exact ⟨hinv, by simpa [leavesInTime, departing] using htime⟩
  | writingTimeout | readingTimeout | endOfMessageTimeout | error =>
      exact (triple_fallBack hcall).weaken fun past s hpre hall => hpre hall
  | finished => exact triple_cbFinished hcall
  | ready attempt =>
      exact (keeps_cbReady hcall).weaken fun past s hpre =>
        negotiationInvariant_of_departing hpre rfl
  | connectionTimeout attempt => exact triple_cbConnectionTimeout
  | connectionError attempt domain => exact triple_cbConnectionError hcallback
  | _ => exact hcallback.elim

theorem connectionKeeps_of_called
    (hcalled : ∀ child callback, callback.isNegotiation →
      Proc.Keeps (negotiationInvariant milters none) (call child callback)) :
    ConnectionKeeps (.keeps (negotiationInvariant milters none)) call
      (fun _ => True) Callback.isNegotiation where
  context _ _ _ := keeps_negotiation_updateContext
  sent _ _ _ := keeps_negotiation_record (fun _ => rfl) (fun _ => rfl) (by simp)
  called child callback hcallback _ := hcalled child callback hcallback
  entered child callback hcallback := ConnectionKeeps.of_enter (hcalled child callback hcallback)
  error _ hdomain := hdomain
  connectionError _ _ hdomain := hdomain

/-- The handlers of the children object keep the invariant, entered down to any depth. -/
theorem keeps_negotiation_dispatch (depth : Nat) (child : ChildId) (callback : Callback)
    (hcallback : callback.isNegotiation) :
    Proc.Keeps (negotiationInvariant milters none) (dispatch depth child callback) := by
  induction depth generalizing child callback with
  | zero => exact Proc.Keeps.pure _
  | succ depth ih =>
      refine Proc.Triple.bind _ (Proc.Triple.record fun past s hinv hall => ?_) fun _ =>
        triple_handle (connectionKeeps_of_called ih) hcallback
      have henter := (hinv hall.of_append).enter
        (rfl : isNegotiateReply (.called s child callback) = false) (by simp)
      exact ⟨henter, hall.last⟩

theorem keeps_idleReplyNegotiate :
    Proc.Keeps (negotiationInvariant milters none) idleReplyNegotiate := by
  unfold idleReplyNegotiate
  refine Proc.Triple.getState fun s => Proc.Triple.ite (fun hlazy => ?_) fun _ =>
    Proc.Triple.pure fun past t h => h.1
  refine Proc.Triple.bind _ (Proc.Triple.update ?_) fun _ => @triple_replyNegotiate milters none
  rintro past t ⟨hinv, rfl⟩ hall
  have hneg := hinv hall
  have hanswers : t.negotiation.answers = 0 := by
    simp [NegotiationView.answers, NegotiationView.isAnswered, State.negotiation, hlazy]
  rw [hanswers] at hneg
  have hsubset : t.replyQueue ⊆ milters := hneg.subset
  rw [hneg.lazy hlazy] at hsubset
  refine ⟨{ hneg with lazy := fun h => by cases h }, ?_⟩
  simp [NegotiationView.isAnswered, State.negotiation, List.subset_nil.mp hsubset]

theorem keeps_childEstablishConnection {option : Nat} {isRetry established : Bool} :
    Proc.Keeps (negotiationInvariant milters none)
      (childEstablishConnection child option isRetry established) := by
  unfold childEstablishConnection
  refine Proc.Keeps.bind keeps_negotiation_updateContext fun _ => Proc.Keeps.ite ?_ ?_
  · refine Proc.Keeps.bind (keeps_negotiation_emitSignal rfl) fun _ =>
      Proc.Keeps.bind (Proc.Keeps.ite ?_ (Proc.Keeps.update fun _ _ h => h)) fun _ =>
        Proc.Keeps.pure _
    refine Proc.Triple.bind _ (Proc.Triple.record fun past s hinv hall => ?_) fun _ =>
      Proc.Triple.bind _ triple_removeQueueInNegotiate fun _ => keeps_negotiation_expireChild
    have henter := (hinv hall.of_append).enter
      (rfl : isNegotiateReply (.unreachable s child) = false) (by simp)
    exact ⟨henter, by simpa [leavesInTime] using hall.last⟩
  · exact Proc.Keeps.bind (Proc.Keeps.update fun _ _ h => h) fun _ => Proc.Keeps.pure _

theorem keeps_retryEstablishConnection {attempt : Nat} {established : Bool} :
    Proc.Keeps (negotiationInvariant milters none)
      (retryEstablishConnection attempt established) := by
  intro past s hinv
  unfold retryEstablishConnection
  rw [withAttempt_apply]
  cases s.attempt attempt with
  | none => simpa using hinv
  | some data =>
      refine Proc.Keeps.ite ?_ (Proc.Keeps.pure _) past s hinv
      exact keeps_childEstablishConnection.bind fun _ => Proc.Keeps.update fun _ _ h => h

/-- Every event of a negotiation keeps the invariant. -/
theorem keeps_negotiation_perform (depth : Nat) {event : Event} (hevent : event.isNegotiation) :
    Proc.Keeps (negotiationInvariant milters none) (perform (dispatch depth) event) := by
  have hcall := connectionKeeps_of_called (@keeps_negotiation_dispatch milters depth)
  have hnext (child : ChildId) : Proc.Keeps (negotiationInvariant milters none)
      (processNextStates (pure ⟨⟩) (dispatch depth) child) :=
    hcall.of_processNextStates (Proc.Keeps.pure _) fun _ => trivial
  cases event with
  | idle => exact keeps_idleReplyNegotiate
  | retry attempt established => exact keeps_retryEstablishConnection
  | connected child established =>
      exact hcall.of_connectWatch fun attempt => hcall.called child _ trivial rfl
  | flushed child => exact hcall.of_flushed trivial fun _ => trivial
  | timeout child =>
      exact hcall.of_expireTimeout trivial (hnext child) (fun _ => trivial) trivial trivial trivial
  | hangUp child => exact hcall.of_hangUp trivial (hnext child)
  | failWriter child => exact hcall.of_failWriter
  | fail child => exact hcall.of_failConnection
  | stopOn child state stops => exact keeps_negotiation_updateContext
  | reply child reply =>
      cases reply with
      | negotiateReply option =>
          refine @ConnectionKeeps.of_receive (.keeps (negotiationInvariant milters none)) _ _ _ ?_
          exact hcall.of_decoderNegotiateReply (fun _ _ _ => keeps_negotiation_updateContext)
            keeps_negotiation_updateContext trivial
      | _ => cases hevent
  | _ => cases hevent

end Steps

/-- A children object that was just made begins a negotiation with the invariant. -/
theorem negotiationInvariant_childrenNegotiate (children : List Context) (privilegeMode : Bool)
    (launcher : Launcher) (chunkSize : ChunkSize) (surroundings : Surroundings)
    (offered : MilterOption) (established : ChildId → Bool) :
    Proc.Triple
      (fun past s => past = [] ∧
        s = State.init children privilegeMode launcher chunkSize surroundings)
      (childrenNegotiate offered established)
      (fun _ => negotiationInvariant (List.range children.length) none) := by
  have hnothing : AnswersInTime (List.range children.length) [] ∧ AnswersOnly [] := by
    refine ⟨fun front before option back hsplit => ?_, fun before signal hmem => by cases hmem⟩
    simp at hsplit
  unfold childrenNegotiate
  refine Proc.Triple.bind (fun _ past s => past = [] ∧ s.replyQueue = [] ∧
    s.milters = List.range children.length ∧ s.finished = false ∧ s.option.isSome ∧
    s.pendingMessageRequest = none ∧ s.replyCode = 0 ∧ s.processingState = .start ∧
    s.lazyReplyNegotiate = false) ?_ fun _ => Proc.Triple.getState fun s => ?_
  · refine Proc.Triple.update ?_
    rintro past s ⟨rfl, rfl⟩
    exact ⟨rfl, rfl, rfl, rfl, rfl, rfl, rfl, rfl, rfl⟩
  refine Proc.Triple.ite (fun hmilters => Proc.Triple.update ?_) fun hmilters => ?_
  · rintro past t ⟨⟨rfl, hqueue, hrange, hfinished, hoption, hpending, hcode, hstate, -⟩, rfl⟩ -
    rw [hmilters] at hrange
    rw [← hrange]
    exact {
      notFinished := hfinished
      hasOption := hoption
      noPending := hpending
      noReplyCode := hcode
      processing := fun hne => absurd hqueue hne
      phase := .inl hstate
      lazy := fun _ => rfl
      nodup := by simp [State.negotiation, hqueue]
      subset := by simp [State.negotiation, hqueue]
      outstanding := by simp
      gone := by simp
      count := by simp [NegotiationView.answers, NegotiationView.isAnswered, State.negotiation]
      inTime := hrange ▸ hnothing.1
      only := hnothing.2 }
  have hattempt (child : ChildId) (option : Nat) :
      Proc.Keeps (negotiationInvariant (List.range children.length) none) (do
        if !(← childEstablishConnection child option false (established child)) then
          if s.privilegeMode then
            if ← startChild child then prepareRetryEstablishConnection child option false) := by
    refine keeps_childEstablishConnection.bind fun sent => Proc.Keeps.ite ?_ (Proc.Keeps.pure _)
    refine Proc.Keeps.ite ?_ (Proc.Keeps.pure _)
    refine keeps_negotiation_startChild.bind fun started => Proc.Keeps.ite ?_ (Proc.Keeps.pure _)
    exact Proc.Keeps.update fun _ _ h => h
  refine Proc.Triple.bind (fun _ past t => past = [] ∧ t.replyQueue = [] ∧
    s.milters = List.range children.length ∧ t.finished = false ∧ t.option.isSome ∧
    t.pendingMessageRequest = none ∧ t.replyCode = 0 ∧ t.processingState = .negotiate ∧
    t.lazyReplyNegotiate = false) ?_ fun _ => ?_
  · rintro past t ⟨⟨rfl, -, hrange, hfinished, hoption, hpending, hcode, -, hlazy⟩, rfl⟩
    exact ⟨rfl, rfl, hrange, hfinished, hoption, hpending, hcode, rfl, hlazy⟩
  refine Proc.Triple.bind (fun _ => negotiationInvariant (List.range children.length) none) ?_
    fun _ => Proc.Keeps.each _ fun child _ => hattempt child _
  rintro past t ⟨rfl, hqueue, hrange, hfinished, hoption, hpending, hcode, hstate, hlazy⟩ -
  rw [each_pushReplyQueue, hqueue, List.nil_append]
  rw [hrange] at hmilters ⊢
  exact {
    notFinished := hfinished
    hasOption := hoption
    noPending := hpending
    noReplyCode := hcode
    processing := fun _ => hstate
    phase := .inr (.inl hstate)
    lazy := fun h => by simp [State.negotiation, hlazy] at h
    nodup := List.nodup_range
    subset := List.Subset.refl _
    outstanding := fun child hmem _ => by simpa [State.negotiation, departed] using hmem
    gone := by simp
    count := by
      simp only [NegotiationView.answers, NegotiationView.isAnswered, State.negotiation, hmilters]
      simp
    inTime := hnothing.1
    only := hnothing.2 }

/-- The invariant at the end of a negotiation that a new children object goes through. -/
theorem negotiationInvariant_run (depth : Nat) (children : List Context) (privilegeMode : Bool)
    (launcher : Launcher) (chunkSize : ChunkSize) (surroundings : Surroundings)
    (offered : MilterOption) (established : ChildId → Bool) (events : List Event)
    (hevents : ∀ event ∈ events, event.isNegotiation) :
    let outcome := run depth (.negotiate offered established :: events)
      (State.init children privilegeMode launcher chunkSize surroundings)
    negotiationInvariant (List.range children.length) none outcome.trace outcome.state := by
  have htriple := Proc.Triple.bind _ (negotiationInvariant_childrenNegotiate children privilegeMode
    launcher chunkSize surroundings offered established) fun _ =>
    Proc.Keeps.each events fun event hmem =>
      keeps_negotiation_perform depth (hevents event hmem)
  have hfinal := htriple [] _ ⟨rfl, rfl⟩
  rw [List.nil_append] at hfinal
  exact hfinal

end MilterManager.Children
