import MilterManager.Children.NegotiateOnce

/-!
# The outcome of a negotiation

Every reply of a child is merged into the option object that the MTA's option was put in, and the
answer is what the object holds when the steps for no event and the wishes of nobody are taken out.
Bit by bit the answer depends on the set of replies alone. Two things go wrong: the merge adds
actions that the MTA did not offer, and the object that changes with every reply is also what a
child is offered that becomes ready later.
-/

namespace MilterManager.Children

open MilterManager.Base MilterManager.Core MilterManager.Server

/-- The options that the children have replied with. -/
def replies (trace : List Action) : List MilterOption :=
  trace.filterMap fun action =>
    match action with
    | .called _ _ (.negotiateReply reply) => some reply
    | _ => none

/-- A step bit of the answer: no event is left out, a reply is left out when everybody agrees, and
a wish is granted when somebody has it. -/
def negotiatedStep (offered : MilterOption) (replies : List MilterOption) (i : Nat) : Bool :=
  if StepFlags.noEventMask.getLsbD i then false
  else if StepFlags.noReplyMask.getLsbD i then
    offered.step.getLsbD i && replies.all (·.step.getLsbD i)
  else if StepFlags.yesMask.getLsbD i then
    offered.step.getLsbD i && replies.any (·.step.getLsbD i)
  else offered.step.getLsbD i && replies.isEmpty

/-- The answer to `offered` after `replies`. -/
structure NegotiatedFrom (offered : MilterOption) (replies : List MilterOption)
    (option : MilterOption) : Prop where
  version : option.version = offered.version
  action : ∀ i, option.action.getLsbD i =
    (offered.action.getLsbD i || replies.any (·.action.getLsbD i))
  step : ∀ i, option.step.getLsbD i = negotiatedStep offered replies i

/-- What the option object holds, and the steps wished for, after `replies`. -/
structure Merging (offered : MilterOption) (replies : List MilterOption) (wished : Flags)
    (own : MilterOption) : Prop where
  version : own.version = offered.version
  action : ∀ i, own.action.getLsbD i =
    (offered.action.getLsbD i || replies.any (·.action.getLsbD i))
  wishes : ∀ i, wished.getLsbD i =
    (StepFlags.yesMask.getLsbD i && replies.any (·.step.getLsbD i))
  noReply : ∀ i, StepFlags.noReplyMask.getLsbD i → own.step.getLsbD i =
    (offered.step.getLsbD i && replies.all (·.step.getLsbD i))
  yes : ∀ i, wished.getLsbD i → offered.step.getLsbD i → own.step.getLsbD i
  other : ∀ i, StepFlags.noMask.getLsbD i = false → StepFlags.yesMask.getLsbD i = false →
    own.step.getLsbD i = (offered.step.getLsbD i && replies.isEmpty)

/-- The masks of the steps share no bit. -/
theorem stepMasks_disjoint (i : Nat) :
    (StepFlags.noMask.getLsbD i && StepFlags.yesMask.getLsbD i) = false ∧
      (StepFlags.noEventMask.getLsbD i && StepFlags.noReplyMask.getLsbD i) = false := by
  have hno : StepFlags.noMask &&& StepFlags.yesMask = 0#32 := by decide
  have hevent : StepFlags.noEventMask &&& StepFlags.noReplyMask = 0#32 := by decide
  constructor
  · simpa using congrArg (·.getLsbD i) hno
  · simpa using congrArg (·.getLsbD i) hevent

theorem noMask_getLsbD (i : Nat) :
    StepFlags.noMask.getLsbD i =
      (StepFlags.noEventMask.getLsbD i || StepFlags.noReplyMask.getLsbD i) := by
  simp [StepFlags.noMask]

section Merge

variable {offered own reply : MilterOption} {merged : List MilterOption} {wished : Flags}

/-- Nothing is merged yet. -/
theorem Merging.start (offered : MilterOption) : Merging offered [] 0#32 offered where
  version := rfl
  action := by simp
  wishes := by simp
  noReply := by simp
  yes := by simp
  other := by simp

/-- One more reply is merged; a child replies with no higher version than it was offered. -/
theorem Merging.merge (h : Merging offered merged wished own)
    (hversion : reply.version ≤ own.version) :
    Merging offered (merged ++ [reply]) (wished ||| reply.stepYes)
      ((own.merge reply).getD own) := by
  have hmerge : (own.merge reply).getD own =
      { own with
        step := StepFlags.merge own.step reply.step
        action := own.action ||| reply.action } := by
    simp [MilterOption.merge, Nat.not_lt.mpr hversion]
  rw [hmerge]
  refine ⟨h.version, fun i => ?_, fun i => ?_, fun i hreply => ?_, fun i hwished hoffered => ?_,
    fun i hno hyes => ?_⟩
  · simp [h.action, Bool.or_assoc]
  · simp only [BitVec.getLsbD_or, h.wishes, MilterOption.stepYes, BitVec.getLsbD_and,
      List.any_append, List.any_cons, List.any_nil, Bool.or_false]
    cases StepFlags.yesMask.getLsbD i <;> simp
  · have hyes := (stepMasks_disjoint i).1
    simp only [noMask_getLsbD, hreply, Bool.or_true, Bool.true_and] at hyes
    simp [StepFlags.merge, noMask_getLsbD, hreply, hyes, h.noReply i hreply, Bool.and_assoc]
  · simp only [BitVec.getLsbD_or, MilterOption.stepYes, BitVec.getLsbD_and, Bool.or_eq_true,
      Bool.and_eq_true] at hwished
    rcases hwished with hwished | ⟨hstep, hyes⟩
    · have hyes : StepFlags.yesMask.getLsbD i := by
        have := h.wishes i
        simp_all
      simp [StepFlags.merge, h.yes i hwished hoffered, hyes]
    · simp [StepFlags.merge, hstep, hyes]
  · simp [StepFlags.merge, hno, hyes]

/-- The steps taken out of the option for the answer. -/
def removedBits (offered : MilterOption) (wished : Flags) : Flags :=
  StepFlags.noEventMask ||| (StepFlags.yesMask &&& ~~~(offered.stepYes &&& wished))

theorem removeStep_getLsbD (own : MilterOption) (steps : Flags) (i : Nat) :
    (own.removeStep steps).step.getLsbD i = (own.step.getLsbD i && !steps.getLsbD i) := by
  by_cases hi : i < 32
  · simp [MilterOption.removeStep, hi]
  · simp [MilterOption.removeStep, BitVec.getLsbD_of_ge _ _ (Nat.le_of_not_lt hi)]

theorem removedBits_getLsbD (offered : MilterOption) (wished : Flags) (i : Nat) :
    (removedBits offered wished).getLsbD i = (StepFlags.noEventMask.getLsbD i ||
      (StepFlags.yesMask.getLsbD i && !(offered.step.getLsbD i && wished.getLsbD i))) := by
  by_cases hi : i < 32
  · simp only [removedBits, MilterOption.stepYes, BitVec.getLsbD_or, BitVec.getLsbD_and,
      BitVec.getLsbD_not, hi, decide_true, Bool.true_and]
    cases StepFlags.yesMask.getLsbD i <;> simp
  · simp [removedBits, MilterOption.stepYes, BitVec.getLsbD_of_ge _ _ (Nat.le_of_not_lt hi)]

/-- What is taken out for an answer changes nothing for the next one. -/
theorem Merging.remove (h : Merging offered merged wished own) :
    Merging offered merged wished (own.removeStep (removedBits offered wished)) := by
  refine ⟨h.version, h.action, h.wishes, fun i hreply => ?_, fun i hwished hoffered => ?_,
    fun i hno hyes => ?_⟩
  · have hdisjoint := stepMasks_disjoint i
    rw [noMask_getLsbD, hreply] at hdisjoint
    rw [removeStep_getLsbD, removedBits_getLsbD, h.noReply i hreply]
    simp_all
  · have hwishes := h.wishes i
    have hdisjoint := stepMasks_disjoint i
    rw [noMask_getLsbD] at hdisjoint
    rw [removeStep_getLsbD, removedBits_getLsbD, h.yes i hwished hoffered]
    simp_all
  · rw [removeStep_getLsbD, removedBits_getLsbD, h.other i hno hyes]
    rw [noMask_getLsbD] at hno
    simp_all

/-- What is left is the answer. -/
theorem Merging.negotiatedFrom (h : Merging offered merged wished own) :
    NegotiatedFrom offered merged (own.removeStep (removedBits offered wished)) := by
  refine ⟨h.version, h.action, fun i => ?_⟩
  have hdisjoint := stepMasks_disjoint i
  rw [noMask_getLsbD] at hdisjoint
  rw [removeStep_getLsbD, removedBits_getLsbD, negotiatedStep]
  split
  · next hevent => simp [hevent]
  split
  · next hevent hreply =>
      rw [h.noReply i hreply]
      simp_all
  split
  · next hyes =>
      have hwishes := h.wishes i
      have hgranted := h.yes i
      cases hoffered : offered.step.getLsbD i <;> cases hwished : wished.getLsbD i <;> simp_all
  · next hevent hreply hyes =>
      rw [h.other i (by simp_all [noMask_getLsbD]) (by simpa using hyes)]
      simp_all

end Merge

/-- What an answer is to be, after `replies` to the option that the MTA offered. -/
structure IsNegotiated (offered : MilterOption) (replies : List MilterOption)
    (option : MilterOption) : Prop where
  version : option.version ≤ offered.version ∧ option.version ≤ maxSupportedMilterProtocolVersion
  action : ∀ i, option.action.getLsbD i → offered.action.getLsbD i
  step : ∀ i, option.step.getLsbD i → offered.step.getLsbD i
  noEvent : ∀ i, StepFlags.noEventMask.getLsbD i → option.step.getLsbD i = false
  noReply : ∀ i, StepFlags.noReplyMask.getLsbD i →
    (option.step.getLsbD i ↔ offered.step.getLsbD i ∧ ∀ reply ∈ replies, reply.step.getLsbD i)
  yes : ∀ i, StepFlags.yesMask.getLsbD i →
    (option.step.getLsbD i ↔ offered.step.getLsbD i ∧ ∃ reply ∈ replies, reply.step.getLsbD i)
  requested : ∀ i, offered.action.getLsbD i → (∃ reply ∈ replies, reply.action.getLsbD i) →
    option.action.getLsbD i

/-- No action is asked for that was not offered. -/
def asksForOffered (offered reply : MilterOption) : Bool :=
  reply.action &&& ~~~offered.action = 0#32

theorem asksForOffered_iff (offered reply : MilterOption) :
    asksForOffered offered reply ↔
      ∀ i, reply.action.getLsbD i → offered.action.getLsbD i := by
  rw [asksForOffered, decide_eq_true_iff]
  constructor
  · intro h i hreply
    have hbit := congrArg (·.getLsbD i) h
    by_cases hi : i < 32
    · simpa [hreply, hi] using hbit
    · rw [BitVec.getLsbD_of_ge _ _ (Nat.le_of_not_lt hi)] at hreply
      cases hreply
  · intro h
    refine BitVec.eq_of_getLsbD_eq fun i hi => ?_
    have hbit := h i
    cases hreply : reply.action.getLsbD i <;> simp_all

section Answer

variable {offered option : MilterOption} {merged : List MilterOption}

/-- The answer is as it is to be, unless a child asked for an action that was not offered. -/
theorem NegotiatedFrom.isNegotiated_iff (h : NegotiatedFrom offered.clampVersion merged option) :
    IsNegotiated offered merged option ↔ ∀ reply ∈ merged, asksForOffered offered reply := by
  have haction : ∀ i, option.action.getLsbD i =
      (offered.action.getLsbD i || merged.any (·.action.getLsbD i)) := h.action
  have hstep : ∀ i, option.step.getLsbD i = negotiatedStep offered merged i := h.step
  constructor
  · intro hoption reply hreply
    rw [asksForOffered_iff]
    intro i hbit
    apply hoption.action i
    rw [haction, Bool.or_eq_true, List.any_eq_true]
    exact .inr ⟨reply, hreply, hbit⟩
  · intro hasked
    refine ⟨?_, fun i hbit => ?_, fun i hbit => ?_, fun i hevent => ?_, fun i hreply => ?_,
      fun i hyes => ?_, fun i hoffered _ => ?_⟩
    · have hversion : option.version = min offered.version maxSupportedMilterProtocolVersion :=
        h.version
      omega
    · rw [haction, Bool.or_eq_true, List.any_eq_true] at hbit
      rcases hbit with hbit | ⟨reply, hmem, hbit⟩
      · exact hbit
      · exact (asksForOffered_iff offered reply).mp (hasked reply hmem) i hbit
    · rw [hstep, negotiatedStep] at hbit
      split at hbit
      · cases hbit
      · split at hbit
        · exact (Bool.and_eq_true_iff.mp hbit).1
        · split at hbit <;> exact (Bool.and_eq_true_iff.mp hbit).1
    · rw [hstep, negotiatedStep, if_pos hevent]
    · have hdisjoint := (stepMasks_disjoint i).2
      rw [hreply, Bool.and_true] at hdisjoint
      rw [hstep, negotiatedStep, if_neg (by simp [hdisjoint]), if_pos hreply, Bool.and_eq_true,
        List.all_eq_true]
    · have hdisjoint := (stepMasks_disjoint i).1
      rw [noMask_getLsbD, hyes, Bool.and_true, Bool.or_eq_false_iff] at hdisjoint
      rw [hstep, negotiatedStep, if_neg (by simp [hdisjoint.1]), if_neg (by simp [hdisjoint.2]),
        if_pos hyes, Bool.and_eq_true, List.any_eq_true]
    · rw [haction, hoffered, Bool.true_or]

/-- The answer depends on the set of the replies alone. -/
theorem NegotiatedFrom.unique {other : MilterOption} {otherMerged : List MilterOption}
    (h : NegotiatedFrom offered merged option) (hother : NegotiatedFrom offered otherMerged other)
    (hsame : ∀ reply, reply ∈ merged ↔ reply ∈ otherMerged) : option = other := by
  have hany (p : MilterOption → Bool) : merged.any p = otherMerged.any p := by
    rw [Bool.eq_iff_iff, List.any_eq_true, List.any_eq_true]
    simp [hsame]
  have hall (p : MilterOption → Bool) : merged.all p = otherMerged.all p := by
    rw [Bool.eq_iff_iff, List.all_eq_true, List.all_eq_true]
    simp [hsame]
  have hempty : merged.isEmpty = otherMerged.isEmpty := by
    rw [Bool.eq_iff_iff, List.isEmpty_iff, List.isEmpty_iff, List.eq_nil_iff_forall_not_mem,
      List.eq_nil_iff_forall_not_mem]
    simp [hsame]
  have hversion : option.version = other.version := h.version.trans hother.version.symm
  have haction : option.action = other.action := by
    refine BitVec.eq_of_getLsbD_eq fun i _ => ?_
    rw [h.action, hother.action, hany]
  have hstep : option.step = other.step := by
    refine BitVec.eq_of_getLsbD_eq fun i _ => ?_
    rw [h.step, hother.step, negotiatedStep, negotiatedStep, hany, hall, hempty]
  cases option
  cases other
  simp_all

end Answer

/-- A child that becomes ready finds the option object as the MTA's option was put in. -/
def offersAsIs (offered : MilterOption) : Action → Bool
  | .called before _ (.ready attempt) =>
      (before.attempt attempt).all fun data => optionContent before data.option = offered
  | _ => true

/-- The callbacks of a negotiation; a child replies with no higher version than it was offered. -/
def Callback.isOffered (offered : MilterOption) : Callback → Prop
  | .negotiateReply reply => reply.version ≤ offered.version
  | callback => callback.isNegotiation

/-- The part of the state that decides about the outcome. -/
structure OfferView where
  options : List MilterOption
  option : Option Nat
  initialYesSteps : Flags
  requestedYesSteps : Flags
  attempts : List NegotiateData
  pendingMessageRequest : Option PendingMessageRequest
  processingState : ContextState
  setup : ChildId → Option MilterOption × Nat × Status × Bool

/-- The part of a state that decides about the outcome. -/
def State.offers (s : State) : OfferView where
  options := s.options
  option := s.option
  initialYesSteps := s.initialYesSteps
  requestedYesSteps := s.requestedYesSteps
  attempts := s.tryNegotiateIds
  pendingMessageRequest := s.pendingMessageRequest
  processingState := s.processingState
  setup := fun child => (s.context child).setup

/-- A child whose handlers are connected has been offered the option. -/
def WasOffered (offered : MilterOption) (setup : Option MilterOption × Nat × Status × Bool) :
    Prop :=
  setup.2.1 ≠ 0 → ∃ own, setup.1 = some own ∧ own.version ≤ offered.version

/-- Every answer in a trace is the one to the replies before it. -/
def AnswersFrom (offered : MilterOption) (trace : List Action) : Prop :=
  ∀ front before option back, trace = front ++ .emitted before (.negotiateReply option) :: back →
    NegotiatedFrom offered (replies front) option

/-- Every child is offered the option of the MTA, unless one became ready with another option in
the object. -/
def OffersAsIs (offered : MilterOption) (trace : List Action) : Prop :=
  ∀ child option, .sent child (.negotiate option) ∈ trace → option = offered ∨
    ∃ action ∈ trace, offersAsIs offered action = false

/-- The invariant about the outcome; `merged` are the replies that the object holds, `unoffered`
the child that is about to be offered the option. -/
structure Outcome (offered : MilterOption) (index : Nat) (unoffered : Option ChildId)
    (merged : List MilterOption) (past : List Action) (view : OfferView) : Prop where
  option : view.option = some index
  stored : index < view.options.length
  merging : Merging offered merged view.requestedYesSteps
    (view.options.getD index ⟨0, 0#32, 0#32⟩)
  initial : view.initialYesSteps = offered.stepYes
  attempts : ∀ data ∈ view.attempts, data.option = index
  noPending : view.pendingMessageRequest = none
  phase : view.processingState = .start ∨ view.processingState = .negotiate ∨
    view.processingState = .abort
  setup : ∀ child, unoffered ≠ some child → WasOffered offered (view.setup child)
  answers : AnswersFrom offered past
  offers : OffersAsIs offered past

/-- The invariant between two steps. -/
def outcomeInvariant (offered : MilterOption) (index : Nat) (past : List Action) (s : State) :
    Prop :=
  Outcome offered index none (replies past) past s.offers

section Traces

variable {offered : MilterOption} {past : List Action}

@[simp] theorem replies_append (front back : List Action) :
    replies (front ++ back) = replies front ++ replies back := by
  simp [replies]

theorem AnswersFrom.append {action : Action} (h : AnswersFrom offered past)
    (haction : ∀ before option, action = .emitted before (.negotiateReply option) →
      NegotiatedFrom offered (replies past) option) : AnswersFrom offered (past ++ [action]) := by
  intro front before option back hsplit
  rcases List.eq_nil_or_concat back with rfl | ⟨init, last, rfl⟩
  · obtain ⟨rfl, hlast⟩ := List.append_inj' hsplit rfl
    exact haction before option (by simpa using hlast)
  · rw [List.concat_eq_append, ← List.cons_append, ← List.append_assoc] at hsplit
    exact h front before option init (List.append_inj' hsplit rfl).1

theorem OffersAsIs.append {action : Action} (h : OffersAsIs offered past)
    (haction : ∀ child option, action = .sent child (.negotiate option) → option = offered ∨
      ∃ action ∈ past, offersAsIs offered action = false) :
    OffersAsIs offered (past ++ [action]) := by
  intro child option hmem
  rcases List.mem_append.mp hmem with hmem | hmem
  · rcases h child option hmem with hoption | ⟨other, hother, hlate⟩
    · exact .inl hoption
    · exact .inr ⟨other, List.mem_append_left _ hother, hlate⟩
  · rcases haction child option (List.mem_singleton.mp hmem).symm with
      hoption | ⟨other, hother, hlate⟩
    · exact .inl hoption
    · exact .inr ⟨other, List.mem_append_left _ hother, hlate⟩

end Traces

section Steps

variable {offered : MilterOption} {index : Nat} {unoffered : Option ChildId}
variable {merged : List MilterOption} {call : Handlers} {child : ChildId}

/-- An entry that neither replies, nor answers, nor offers. -/
theorem keeps_outcome_record {entry : State → Action}
    (hreply : ∀ s, replies [entry s] = [])
    (hanswer : ∀ s before option, entry s ≠ .emitted before (.negotiateReply option))
    (hoffer : ∀ s child option, entry s ≠ .sent child (.negotiate option)) :
    Proc.Keeps (outcomeInvariant offered index) (Proc.record entry) := by
  refine Proc.Keeps.record fun past s h => ?_
  unfold outcomeInvariant
  rw [replies_append, hreply, List.append_nil]
  exact { h with
    answers := h.answers.append fun before option heq => absurd heq (hanswer s before option)
    offers := h.offers.append fun child option heq => absurd heq (hoffer s child option) }

theorem keeps_outcome_emitSignal {signal : Signal}
    (hsignal : ∀ option, signal ≠ .negotiateReply option) :
    Proc.Keeps (outcomeInvariant offered index) (emitSignal signal) := by
  refine keeps_outcome_record (fun _ => rfl) (fun s before option heq => ?_) (by simp)
  cases heq
  exact hsignal option rfl

/-- The setup of a child is changed, if at all, so that it was offered the option. -/
theorem triple_outcome_updateContext (Q R : Context → Prop) {f : Context → Context}
    (hf : ∀ context, Q context → WasOffered offered context.setup →
      WasOffered offered (f context).setup ∧ R (f context)) :
    Proc.Triple (fun past s => outcomeInvariant offered index past s ∧ Q (s.context child))
      (updateContext child f)
      (fun _ past s => outcomeInvariant offered index past s ∧ R (s.context child)) := by
  refine Proc.Triple.update ?_
  rintro past s ⟨h, hcontext⟩
  obtain ⟨hoffered, hnext⟩ := hf _ hcontext (h.setup child (by simp))
  refine ⟨{ h with setup := fun other hother => ?_ }, by simpa using hnext⟩
  by_cases heq : other = child
  · subst heq
    simpa [State.offers] using hoffered
  · simpa [State.offers, Function.update_of_ne heq] using h.setup other hother

theorem keeps_outcome_updateContext {f : Context → Context}
    (hf : ∀ context, WasOffered offered context.setup → WasOffered offered (f context).setup) :
    Proc.Keeps (outcomeInvariant offered index) (updateContext child f) :=
  (triple_outcome_updateContext (fun _ => True) (fun _ => True)
    fun context _ h => ⟨hf context h, trivial⟩).consequence (fun _ _ h => ⟨h, trivial⟩)
    fun _ _ _ h => h.1

theorem keeps_outcome_expireChild :
    Proc.Keeps (outcomeInvariant offered index) (expireChild child) :=
  keeps_outcome_updateContext fun _ _ h => absurd rfl h

theorem keeps_outcome_compileReplyStatus {state : ContextState} {status : Status} :
    Proc.Keeps (outcomeInvariant offered index) (compileReplyStatus state status) := by
  rw [compileReplyStatus_eq]
  refine Proc.Keeps.update fun past s h => ?_
  unfold compiled
  split
  · exact h
  · exact h

theorem keeps_outcome_checkFallbackStatus :
    Proc.Keeps (outcomeInvariant offered index) checkFallbackStatusOnNegotiate := by
  unfold checkFallbackStatusOnNegotiate
  refine Proc.Keeps.getState.bind fun s => ?_
  split
  case h_4 => exact Proc.Keeps.pure _
  all_goals
    refine Proc.Keeps.each _ fun child _ => (keeps_contextOf _).bind fun context => ?_
    refine Proc.Keeps.ite ?_ (Proc.Keeps.pure _)
    exact Proc.Keeps.bind (Proc.Keeps.update fun _ _ h => h) fun _ => keeps_outcome_expireChild

/-- The answer is the one to the replies so far. -/
theorem keeps_replyNegotiate : Proc.Keeps (outcomeInvariant offered index) replyNegotiate := by
  unfold replyNegotiate
  refine Proc.Triple.getState fun s => ?_
  split
  · next hoption =>
      rintro past t ⟨h, rfl⟩
      have hsome : t.option = some index := h.option
      rw [hoption] at hsome
      cases hsome
  · next own hoption =>
      refine Proc.Triple.bind (fun _ past t => outcomeInvariant offered index past t ∧
        own = index ∧ NegotiatedFrom offered (replies past) (optionContent t own)) ?_ fun _ =>
        Proc.Triple.getState fun t => ?_
      · refine Proc.Triple.update ?_
        rintro past t ⟨h, rfl⟩
        have hown : own = index := by
          have hsome : t.option = some index := h.option
          exact Option.some.inj (hoption.symm.trans hsome)
        subst hown
        have hremoved : removedSteps t = removedBits offered t.requestedYesSteps := by
          have hinitial : t.initialYesSteps = offered.stepYes := h.initial
          rw [removedSteps, removedBits, hinitial]
        have hstored : own < t.options.length := h.stored
        have hcontent : (t.options.modify own (·.removeStep (removedSteps t))).getD own
            ⟨0, 0#32, 0#32⟩ = (t.options.getD own ⟨0, 0#32, 0#32⟩).removeStep
              (removedBits offered t.requestedYesSteps) := by
          simp [hremoved, hstored]
        refine ⟨{ h with stored := ?_, merging := ?_ }, rfl, ?_⟩
        · simpa [State.offers] using hstored
        · rw [State.offers, hcontent]
          exact h.merging.remove
        · rw [optionContent, hcontent]
          exact h.merging.negotiatedFrom
      refine Proc.Triple.bind (fun _ => outcomeInvariant offered index) ?_ fun _ =>
        keeps_outcome_checkFallbackStatus
      refine Proc.Triple.record ?_
      rintro past u ⟨⟨h, hown, hfrom⟩, rfl⟩
      unfold outcomeInvariant
      rw [replies_append, show replies [_] = [] from rfl, List.append_nil]
      refine { h with
        answers := h.answers.append fun before option heq => ?_
        offers := h.offers.append fun child option heq => by cases heq }
      cases heq
      exact hfrom

theorem keeps_removeQueueInNegotiate :
    Proc.Keeps (outcomeInvariant offered index) (removeQueueInNegotiate child) :=
  Proc.Keeps.bind (Proc.Keeps.update fun _ _ h => h) fun _ => Proc.Keeps.getState.bind fun _ =>
    Proc.Keeps.ite keeps_replyNegotiate (Proc.Keeps.pure _)

theorem keeps_outcome_dispose :
    Proc.Keeps (outcomeInvariant offered index) disposeMessageRelatedData := by
  unfold disposeMessageRelatedData
  refine Proc.Keeps.bind (keeps_outcome_record (fun _ => rfl) (by simp) (by simp)) fun _ => ?_
  refine Proc.Keeps.bind (Proc.Keeps.update fun _ _ h => { h with noPending := rfl }) fun _ => ?_
  refine Proc.Keeps.bind (Proc.Keeps.update fun _ _ h => h) fun _ => ?_
  exact Proc.Keeps.bind (Proc.Keeps.update fun _ _ h => h) fun _ =>
    Proc.Keeps.update fun _ _ h => h

theorem keeps_outcome_emitReplyStatusOfState {state : ContextState} :
    Proc.Keeps (outcomeInvariant offered index) (emitReplyStatusOfState state) := by
  have hstatus (status : Status) (option : MilterOption) :
      statusToSignal status ≠ .negotiateReply option := by
    cases status <;> simp [statusToSignal]
  unfold emitReplyStatusOfState
  refine Proc.Keeps.getState.bind fun s => ?_
  refine Proc.Keeps.bind (Proc.Keeps.ite ?_ ?_) fun _ =>
    Proc.Keeps.when fun _ => keeps_outcome_dispose
  · exact Proc.Keeps.bind (keeps_outcome_emitSignal (by simp)) fun _ =>
      Proc.Keeps.update fun _ _ h => h
  · exact Proc.Keeps.when fun _ => keeps_outcome_emitSignal (hstatus _)

section Handlers

variable (hcall : ConnectionKeeps (.keeps (outcomeInvariant offered index)) call (fun _ => True)
  (Callback.isOffered offered))

include hcall

theorem keeps_outcome_childrenAbort :
    Proc.Keeps (outcomeInvariant offered index) (childrenAbort call) := by
  unfold childrenAbort
  refine Proc.Keeps.bind
    (Proc.Keeps.update fun _ _ h => { h with phase := .inr (.inr rfl) }) fun _ => ?_
  refine Proc.Keeps.getState.bind fun s => ?_
  refine Proc.Keeps.bind (Proc.Keeps.each _ fun other _ => ?_) fun _ => ?_
  · refine (keeps_contextOf _).bind fun context => Proc.Keeps.ite ?_ (Proc.Keeps.pure _)
    exact hcall.of_serverAbort.bind fun _ => Proc.Keeps.pure _
  refine Proc.Keeps.bind keeps_outcome_dispose fun _ => Proc.Keeps.each _ fun other _ => ?_
  refine (keeps_contextOf _).bind fun context => Proc.Keeps.ite ?_ (Proc.Keeps.pure _)
  exact keeps_outcome_updateContext fun _ h => h

theorem keeps_outcome_removeChildFromQueue :
    Proc.Keeps (outcomeInvariant offered index) (removeChildFromQueue call child) := by
  unfold removeChildFromQueue
  refine Proc.Keeps.bind (Proc.Keeps.update fun _ _ h => h) fun _ => ?_
  refine Proc.Keeps.getState.bind fun s => Proc.Keeps.ite (Proc.Keeps.pure _) ?_
  refine Proc.Keeps.bind ?_ fun processed => Proc.Keeps.ite (Proc.Keeps.pure _) ?_
  · intro past t h
    have hpending : t.pendingMessageRequest = none := h.noPending
    simpa [resumePendingMessageRequest, hpending] using h
  · refine Proc.Keeps.getState.bind fun t => keeps_outcome_emitReplyStatusOfState.bind fun _ => ?_
    refine Proc.Keeps.getState.bind fun u => ?_
    exact Proc.Keeps.bind (Proc.Keeps.when fun _ => keeps_outcome_childrenAbort hcall) fun _ =>
      Proc.Keeps.pure _

theorem keeps_outcome_fallBack :
    Proc.Keeps (outcomeInvariant offered index) (fallBack call child) := by
  unfold fallBack
  refine (keeps_contextOf _).bind fun context => ?_
  refine keeps_outcome_compileReplyStatus.bind fun _ => keeps_outcome_expireChild.bind fun _ => ?_
  exact (keeps_outcome_removeChildFromQueue hcall).bind fun _ => Proc.Keeps.pure _

theorem keeps_outcome_cbFinished :
    Proc.Keeps (outcomeInvariant offered index) (cbFinished call child) := by
  unfold cbFinished
  refine (keeps_contextOf _).bind fun context => ?_
  refine (Proc.Keeps.when fun _ => keeps_outcome_compileReplyStatus).bind fun _ => ?_
  refine keeps_outcome_expireChild.bind fun _ => Proc.Triple.getState fun s => ?_
  split
  · exact keeps_removeQueueInNegotiate.weaken fun _ _ h => h.1
  case h_6 =>
    exact ((keeps_outcome_removeChildFromQueue hcall).bind fun _ => Proc.Keeps.pure _).weaken
      fun _ _ h => h.1
  all_goals
    rintro past t ⟨h, rfl⟩
    have hphase := h.phase
    simp_all [State.offers]

end Handlers

theorem keeps_outcome_removeAttempt {attempt : Nat} :
    Proc.Keeps (outcomeInvariant offered index) (removeAttempt attempt) :=
  Proc.Keeps.update fun _ _ h =>
    { h with attempts := fun data hmem => h.attempts data (List.mem_of_mem_filter hmem) }

theorem keeps_outcome_addAttempt {isRetry retryTimer : Bool} :
    Proc.Keeps (outcomeInvariant offered index) (addAttempt child index isRetry retryTimer) := by
  refine Proc.Keeps.update fun past s h => { h with attempts := fun data hmem => ?_ }
  rcases List.mem_append.mp hmem with hmem | hmem
  · exact h.attempts data hmem
  · rw [List.mem_singleton.mp hmem]

theorem keeps_outcome_startChild :
    Proc.Keeps (outcomeInvariant offered index) (startChild child) := by
  unfold startChild
  refine Proc.Keeps.getState.bind fun s => Proc.Keeps.ite (Proc.Keeps.pure _) ?_
  refine Proc.Keeps.ite (Proc.Keeps.pure _) (Proc.Keeps.ite ?_ (Proc.Keeps.pure _))
  exact Proc.Keeps.bind (keeps_outcome_emitSignal (by simp)) fun _ => Proc.Keeps.pure _

theorem keeps_outcome_clearTryNegotiateData {data : NegotiateData} :
    Proc.Keeps (outcomeInvariant offered index) (clearTryNegotiateData data) :=
  keeps_removeQueueInNegotiate.bind fun _ => keeps_outcome_expireChild.bind fun _ =>
    keeps_outcome_removeAttempt

theorem keeps_outcome_retryOrClear {data : NegotiateData} {domain : ErrorDomain}
    (hdata : data.option = index) :
    Proc.Keeps (outcomeInvariant offered index) (retryOrClear data domain) := by
  unfold retryOrClear
  refine Proc.Keeps.getState.bind fun s => Proc.Keeps.ite ?_ ?_
  · exact Proc.Keeps.bind (keeps_outcome_emitSignal (by simp)) fun _ =>
      keeps_outcome_clearTryNegotiateData
  refine Proc.Keeps.ite keeps_outcome_clearTryNegotiateData ?_
  refine keeps_outcome_startChild.bind fun started => ?_
  refine Proc.Keeps.ite keeps_outcome_clearTryNegotiateData ?_
  rw [hdata]
  exact keeps_outcome_addAttempt.bind fun _ => keeps_outcome_removeAttempt

/-- The handlers of an attempt have its data, which refer to the option object. -/
theorem keeps_outcome_withAttempt {attempt : Nat} {handle : NegotiateData → Program PUnit}
    (hhandle : ∀ data, data.option = index →
      Proc.Keeps (outcomeInvariant offered index) (handle data)) :
    Proc.Keeps (outcomeInvariant offered index) (withAttempt attempt handle) := by
  intro past s h
  rw [withAttempt_apply]
  cases hattempt : s.attempt attempt with
  | none => simpa using h
  | some data =>
      exact hhandle data (h.attempts data (List.mem_of_find?_eq_some hattempt)) past s h

theorem keeps_outcome_childEstablishConnection {isRetry established : Bool} :
    Proc.Keeps (outcomeInvariant offered index)
      (childEstablishConnection child index isRetry established) := by
  unfold childEstablishConnection
  refine Proc.Keeps.bind (keeps_outcome_updateContext fun _ h => h) fun _ => Proc.Keeps.ite ?_ ?_
  · refine Proc.Keeps.bind (keeps_outcome_emitSignal (by simp)) fun _ =>
      Proc.Keeps.bind (Proc.Keeps.ite ?_ keeps_outcome_addAttempt) fun _ => Proc.Keeps.pure _
    refine Proc.Keeps.bind (keeps_outcome_record (fun _ => rfl) (by simp) (by simp)) fun _ => ?_
    exact keeps_removeQueueInNegotiate.bind fun _ => keeps_outcome_expireChild
  · exact keeps_outcome_addAttempt.bind fun _ => Proc.Keeps.pure _

/-- A reply is merged into the option object. -/
theorem triple_cbNegotiateReply_outcome {reply : MilterOption}
    (hversion : reply.version ≤ offered.version) :
    Proc.Triple
      (fun past s => ∃ merged, replies past = merged ++ [reply] ∧
        Outcome offered index none merged past s.offers)
      (cbNegotiateReply child reply) (fun _ => outcomeInvariant offered index) := by
  unfold cbNegotiateReply
  refine Proc.Triple.getState fun s => ?_
  refine Proc.Triple.bind (fun _ => outcomeInvariant offered index) ?_ fun _ =>
    keeps_removeQueueInNegotiate
  split
  · next hoption =>
      rintro past t ⟨⟨merged, -, h⟩, rfl⟩
      have hsome : t.option = some index := h.option
      rw [hoption] at hsome
      cases hsome
  · next own hoption =>
      refine Proc.Triple.update ?_
      rintro past t ⟨⟨merged, hreplies, h⟩, rfl⟩
      have hown : own = index := by
        have hsome : t.option = some index := h.option
        exact Option.some.inj (hoption.symm.trans hsome)
      subst hown
      have hstored : own < t.options.length := h.stored
      have hcontent : (t.options.modify own fun own => (own.merge reply).getD own).getD own
          ⟨0, 0#32, 0#32⟩ = ((t.options.getD own ⟨0, 0#32, 0#32⟩).merge reply).getD
            (t.options.getD own ⟨0, 0#32, 0#32⟩) := by
        simp [hstored]
      unfold outcomeInvariant
      rw [hreplies]
      refine { h with stored := ?_, merging := ?_ }
      · simpa [State.offers] using hstored
      · rw [State.offers, hcontent]
        exact h.merging.merge (h.merging.version ▸ hversion)

/-- A child becomes ready with the option of the MTA in the object, or some child did not. -/
def OffersFrom (offered : MilterOption) (own : MilterOption) (past : List Action) : Prop :=
  own = offered ∨ ∃ action ∈ past, offersAsIs offered action = false

theorem OffersFrom.append {own : MilterOption} (front back : List Action)
    (h : OffersFrom offered own front) : OffersFrom offered own (front ++ back) := by
  rcases h with h | ⟨action, hmem, hlate⟩
  · exact .inl h
  · exact .inr ⟨action, List.mem_append_left _ hmem, hlate⟩

/-- The offer to a child that is ready. -/
theorem triple_offerOption
    (hcall : ConnectionKeeps (.keeps (outcomeInvariant offered index)) call (fun _ => True)
      (Callback.isOffered offered))
    {data : NegotiateData} (hdata : data.option = index) :
    Proc.Triple
      (fun past s => outcomeInvariant offered index past s ∧
        OffersFrom offered (optionContent s index) past)
      (offerOption call data) (fun _ => outcomeInvariant offered index) := by
  unfold offerOption
  rw [hdata]
  refine Proc.Triple.bind (fun _ past s =>
    Outcome offered index (some data.child) (replies past) past s.offers ∧
      OffersFrom offered (optionContent s index) past) ?_ fun _ => Proc.Triple.getState fun s => ?_
  · refine Proc.Triple.update ?_
    rintro past s ⟨h, hoffers⟩
    refine ⟨{ h with setup := fun other hother => ?_ }, hoffers⟩
    have hne : other ≠ data.child := fun heq => hother (by rw [heq])
    simpa [State.offers, Function.update_of_ne hne] using h.setup other (by simp)
  have hlate := hcall.and_past (P := OffersFrom offered (optionContent s index)) OffersFrom.append
  have hwrite : Proc.Keeps (fun past s' => outcomeInvariant offered index past s' ∧
      OffersFrom offered (optionContent s index) past)
      (writePacket call data.child (.negotiate (optionContent s index)) .negotiate) := by
    refine hlate.of_writePacket (Proc.Keeps.record ?_) (Proc.Keeps.and_past OffersFrom.append ?_)
    · rintro past t ⟨h, hoffers⟩
      refine ⟨?_, hoffers.append past _⟩
      unfold outcomeInvariant
      rw [replies_append, show replies [_] = [] from rfl, List.append_nil]
      refine { h with
        answers := h.answers.append fun before option heq => by cases heq
        offers := h.offers.append fun child option heq => ?_ }
      cases heq
      exact hoffers
    · exact keeps_outcome_updateContext fun _ h => h
  unfold serverNegotiate
  refine Proc.Triple.bind _ (Proc.Triple.bind (fun _ past s' =>
    outcomeInvariant offered index past s' ∧
    OffersFrom offered (optionContent s index) past) ?_ fun _ => hwrite) fun _ => ?_
  · refine Proc.Triple.update ?_
    rintro past t ⟨⟨h, hoffers⟩, rfl⟩
    refine ⟨{ h with setup := fun other _ => ?_ }, hoffers⟩
    by_cases heq : other = data.child
    · subst heq
      intro _
      refine ⟨optionContent t index, by simp [State.offers, Context.setup], ?_⟩
      exact Nat.le_of_eq h.merging.version
    · simpa [State.offers, Function.update_of_ne heq] using
        h.setup other (by simpa using fun h => heq h.symm)
  · exact keeps_outcome_removeAttempt.weaken fun _ _ h => h.1

theorem triple_cbReady_outcome
    (hcall : ConnectionKeeps (.keeps (outcomeInvariant offered index)) call (fun _ => True)
      (Callback.isOffered offered))
    {attempt : Nat} :
    Proc.Triple
      (fun past s => outcomeInvariant offered index past s ∧
        .called s child (.ready attempt) ∈ past)
      (cbReady call attempt) (fun _ => outcomeInvariant offered index) := by
  rintro past s ⟨h, hmem⟩
  unfold cbReady
  rw [withAttempt_apply]
  cases hattempt : s.attempt attempt with
  | none => simpa using h
  | some data =>
      have hdata : data.option = index := h.attempts data (List.mem_of_find?_eq_some hattempt)
      refine triple_offerOption hcall hdata past s ⟨h, ?_⟩
      by_cases heq : optionContent s index = offered
      · exact .inl heq
      · exact .inr ⟨_, hmem, by simp [offersAsIs, hattempt, hdata, heq]⟩

theorem outcome_connectionKeeps_of_called
    (hcalled : ∀ child callback, callback.isOffered offered →
      Proc.Keeps (outcomeInvariant offered index) (call child callback)) :
    ConnectionKeeps (.keeps (outcomeInvariant offered index)) call (fun _ => True)
      (Callback.isOffered offered) where
  context _ _ hf := keeps_outcome_updateContext fun context h => by rwa [(hf context).1]
  sent _ _ hpacket := keeps_outcome_record (fun _ => rfl) (by simp)
    fun _ _ option heq => hpacket option (by cases heq; rfl)
  called child callback hcallback _ := hcalled child callback hcallback
  entered child callback hcallback := ConnectionKeeps.of_enter (hcalled child callback hcallback)
  error _ hdomain := hdomain
  connectionError _ _ hdomain := hdomain

/-- The handlers of the children object keep the invariant, entered down to any depth. -/
theorem keeps_outcome_dispatch (depth : Nat) (child : ChildId) (callback : Callback)
    (hcallback : callback.isOffered offered) :
    Proc.Keeps (outcomeInvariant offered index) (dispatch depth child callback) := by
  induction depth generalizing child callback with
  | zero => exact Proc.Keeps.pure _
  | succ depth ih =>
      have hcall := outcome_connectionKeeps_of_called ih
      have hentry (hnot : ∀ reply, callback ≠ .negotiateReply reply) :
          Proc.Keeps (outcomeInvariant offered index)
            (Proc.record fun s => .called s child callback) := by
        refine keeps_outcome_record (fun s => ?_) (by simp) (by simp)
        cases callback <;> first | rfl | exact absurd rfl (hnot _)
      cases callback with
      | negotiateReply reply =>
          refine Proc.Triple.bind _ (Proc.Triple.record fun past s h => ?_) fun _ =>
            triple_cbNegotiateReply_outcome hcallback
          refine ⟨replies past, by rw [replies_append]; rfl, { h with
            answers := h.answers.append fun before option heq => by cases heq
            offers := h.offers.append fun child option heq => by cases heq }⟩
      | ready attempt =>
          refine Proc.Triple.bind (fun _ past s => outcomeInvariant offered index past s ∧
            .called s child (.ready attempt) ∈ past) ?_ fun _ => ?_
          · exact Proc.Triple.record fun past s h =>
              ⟨hentry (by simp) past s h, List.mem_append_right _ (List.mem_singleton.mpr rfl)⟩
          exact triple_cbReady_outcome hcall
      | writingTimeout | readingTimeout | endOfMessageTimeout | error =>
          exact (hentry (by simp)).bind fun _ => keeps_outcome_fallBack hcall
      | finished => exact (hentry (by simp)).bind fun _ => keeps_outcome_cbFinished hcall
      | connectionTimeout attempt =>
          exact (hentry (by simp)).bind fun _ =>
            keeps_outcome_withAttempt fun data _ => keeps_outcome_clearTryNegotiateData
      | connectionError attempt domain =>
          exact (hentry (by simp)).bind fun _ =>
            keeps_outcome_withAttempt fun data hdata => keeps_outcome_retryOrClear hdata
      | _ => exact hcallback.elim

/-- A reply that reaches the children object has no higher version than was offered. -/
theorem keeps_outcome_decoderNegotiateReply
    (hcall : ConnectionKeeps (.keeps (outcomeInvariant offered index)) call (fun _ => True)
      (Callback.isOffered offered))
    {option : MilterOption} :
    Proc.Keeps (outcomeInvariant offered index) (decoderNegotiateReply call child option) := by
  by_cases hversion : option.version ≤ offered.version
  · refine hcall.of_decoderNegotiateReply (fun own combined hcombine => ?_)
      (keeps_outcome_updateContext fun _ h => h) hversion
    refine keeps_outcome_updateContext fun context h hhandlers => ⟨combined, rfl, ?_⟩
    unfold MilterOption.combine at hcombine
    split at hcombine
    · cases hcombine
    · cases hcombine
      exact hversion
  -- A child that was offered the option does not get past `combine`, so no handlers are connected.
  unfold decoderNegotiateReply
  refine triple_contextOf fun s => ?_
  have herror : Proc.Keeps (outcomeInvariant offered index)
      (emitErrorOn call child .serverContext) := hcall.of_emitErrorOn (by decide)
  refine Proc.Triple.bind (fun _ past t => outcomeInvariant offered index past t ∧
    (t.context child).setup = (s.context child).setup) ?_ fun _ => ?_
  · unfold disableTimeout
    refine Proc.Triple.weaken (triple_outcome_updateContext
      (fun context => context.setup = (s.context child).setup)
      (fun context => context.setup = (s.context child).setup) ?_) ?_
    · exact fun context hsetup h => ⟨h, hsetup⟩
    · rintro past t ⟨h, rfl⟩
      exact ⟨h, rfl⟩
  split
  · exact herror.weaken fun _ _ h => h.1
  · next combined hcombine =>
      refine Proc.Triple.bind (fun _ past t => outcomeInvariant offered index past t ∧
        (t.context child).handlers = 0) ?_ fun _ => Proc.Triple.ite (fun _ => ?_) fun _ => ?_
      · refine triple_outcome_updateContext
          (fun context => context.setup = (s.context child).setup)
          (fun context => context.handlers = 0) fun context hsetup hoffered => ?_
        have hhandlers : context.handlers = 0 := by
          by_contra hne
          obtain ⟨own, hown, hle⟩ := hoffered hne
          have hoption : (s.context child).option = some own :=
            (congrArg Prod.fst hsetup).symm.trans hown
          rw [hoption, Option.getD_some, MilterOption.combine, if_pos (by omega)] at hcombine
          cases hcombine
        exact ⟨fun hne => absurd hhandlers hne, hhandlers⟩
      · refine Proc.Triple.ite (fun _ => ?_) fun _ => Proc.Triple.pure fun _ _ h => h.1
        refine Proc.Triple.bind (fun _ past t => outcomeInvariant offered index past t ∧
          (t.context child).handlers = 0) ?_ fun _ => ?_
        · exact triple_outcome_updateContext (fun context => context.handlers = 0)
            (fun context => context.handlers = 0) fun _ hhandlers h => ⟨h, hhandlers⟩
        rintro past t ⟨h, hhandlers⟩
        rw [emitOn_of_handlers_eq_zero _ _ _ _ hhandlers, List.append_nil]
        exact h
      · exact herror.weaken fun _ _ h => h.1

theorem keeps_outcome_idleReplyNegotiate :
    Proc.Keeps (outcomeInvariant offered index) idleReplyNegotiate := by
  unfold idleReplyNegotiate
  refine Proc.Keeps.getState.bind fun s => Proc.Keeps.ite ?_ (Proc.Keeps.pure _)
  exact Proc.Keeps.bind (Proc.Keeps.update fun _ _ h => h) fun _ => keeps_replyNegotiate

theorem keeps_outcome_retryEstablishConnection {attempt : Nat} {established : Bool} :
    Proc.Keeps (outcomeInvariant offered index)
      (retryEstablishConnection attempt established) := by
  unfold retryEstablishConnection
  refine keeps_outcome_withAttempt fun data hdata => Proc.Keeps.ite ?_ (Proc.Keeps.pure _)
  rw [hdata]
  exact keeps_outcome_childEstablishConnection.bind fun _ => keeps_outcome_removeAttempt

/-- Every event of a negotiation keeps the invariant. -/
theorem keeps_outcome_perform (depth : Nat) {event : Event} (hevent : event.isNegotiation) :
    Proc.Keeps (outcomeInvariant offered index) (perform (dispatch depth) event) := by
  have hcall := outcome_connectionKeeps_of_called (@keeps_outcome_dispatch offered index depth)
  have hnext (child : ChildId) : Proc.Keeps (outcomeInvariant offered index)
      (processNextStates (pure ⟨⟩) (dispatch depth) child) :=
    hcall.of_processNextStates (Proc.Keeps.pure _) fun _ => trivial
  cases event with
  | idle => exact keeps_outcome_idleReplyNegotiate
  | retry attempt established => exact keeps_outcome_retryEstablishConnection
  | connected child established =>
      exact hcall.of_connectWatch fun attempt => hcall.called child _ trivial rfl
  | flushed child => exact hcall.of_flushed trivial fun _ => trivial
  | timeout child =>
      exact hcall.of_expireTimeout trivial (hnext child) (fun _ => trivial) trivial trivial trivial
  | hangUp child => exact hcall.of_hangUp trivial (hnext child)
  | failWriter child => exact hcall.of_failWriter
  | fail child => exact hcall.of_failConnection
  | stopOn child state stops => exact keeps_outcome_updateContext fun _ h => h
  | reply child reply =>
      cases reply with
      | negotiateReply option =>
          refine @ConnectionKeeps.of_receive (.keeps (outcomeInvariant offered index)) _ _ _ ?_
          exact keeps_outcome_decoderNegotiateReply hcall
      | _ => cases hevent
  | _ => cases hevent

end Steps

/-- A children object that was just made begins a negotiation with the invariant. -/
theorem outcomeInvariant_childrenNegotiate {children : List Context} (privilegeMode : Bool)
    (launcher : Launcher) (chunkSize : ChunkSize) (surroundings : Surroundings)
    (offered : MilterOption) (established : ChildId → Bool)
    (hchildren : ∀ context ∈ children, context.handlers = 0) :
    Proc.Triple
      (fun past s => past = [] ∧
        s = State.init children privilegeMode launcher chunkSize surroundings)
      (childrenNegotiate offered established)
      (fun _ => outcomeInvariant offered.clampVersion 0) := by
  have hhandlers (child : ChildId) :
      (children.getD child (.init .accept false false)).handlers = 0 := by
    rw [List.getD_eq_getElem?_getD]
    cases hcontext : children[child]? with
    | none => rfl
    | some context => exact hchildren context (List.mem_of_getElem? hcontext)
  unfold childrenNegotiate
  refine Proc.Triple.bind (fun _ past s => outcomeInvariant offered.clampVersion 0 past s ∧
    s.options.length = 1) ?_ fun _ => Proc.Triple.getState fun s => ?_
  · refine Proc.Triple.update ?_
    rintro past s ⟨rfl, rfl⟩
    refine ⟨?_, rfl⟩
    exact {
      option := rfl
      stored := Nat.zero_lt_one
      merging := Merging.start offered.clampVersion
      initial := rfl
      attempts := fun data hmem => by cases hmem
      noPending := rfl
      phase := .inl rfl
      setup := fun child _ hne => absurd (hhandlers child) hne
      answers := fun front before option back hsplit => by simp at hsplit
      offers := fun child option hmem => by cases hmem }
  have hkeeps (hlength : s.options.length = 1) :
      Proc.Keeps (outcomeInvariant offered.clampVersion 0) (if s.milters = [] then
          Proc.update fun s => { s with negotiated := true, lazyReplyNegotiate := true }
        else do
          initReplyQueue .negotiate
          Proc.each pushReplyQueue s.milters
          Proc.each (fun child => do
            if !(← childEstablishConnection child (s.options.length - 1) false
                (established child)) then
              if s.privilegeMode then
                if ← startChild child then
                  prepareRetryEstablishConnection child (s.options.length - 1) false)
            s.milters) := by
    rw [hlength]
    refine Proc.Keeps.ite (Proc.Keeps.update fun _ _ h => h) ?_
    refine Proc.Keeps.bind ?_ fun _ => Proc.Keeps.bind ?_ fun _ =>
      Proc.Keeps.each _ fun child _ => ?_
    · exact Proc.Keeps.update fun _ _ h => { h with phase := .inr (.inl rfl) }
    · exact Proc.Keeps.each _ fun child _ => Proc.Keeps.update fun _ _ h => h
    refine keeps_outcome_childEstablishConnection.bind fun sent =>
      Proc.Keeps.ite ?_ (Proc.Keeps.pure _)
    refine Proc.Keeps.ite ?_ (Proc.Keeps.pure _)
    refine keeps_outcome_startChild.bind fun started => Proc.Keeps.ite ?_ (Proc.Keeps.pure _)
    exact keeps_outcome_addAttempt
  rintro past t ⟨⟨h, hlength⟩, rfl⟩
  exact hkeeps hlength past t h

/-- The invariant at the end of a negotiation that a new children object goes through. -/
theorem outcomeInvariant_run (depth : Nat) {children : List Context} (privilegeMode : Bool)
    (launcher : Launcher) (chunkSize : ChunkSize) (surroundings : Surroundings)
    (offered : MilterOption) (established : ChildId → Bool) (events : List Event)
    (hchildren : ∀ context ∈ children, context.handlers = 0)
    (hevents : ∀ event ∈ events, event.isNegotiation) :
    let outcome := run depth (.negotiate offered established :: events)
      (State.init children privilegeMode launcher chunkSize surroundings)
    outcomeInvariant offered.clampVersion 0 outcome.trace outcome.state := by
  have htriple := Proc.Triple.bind _ (outcomeInvariant_childrenNegotiate privilegeMode
    launcher chunkSize surroundings offered established hchildren) fun _ =>
    Proc.Keeps.each events fun event hmem => keeps_outcome_perform depth (hevents event hmem)
  have hfinal := htriple [] _ ⟨rfl, rfl⟩
  rw [List.nil_append] at hfinal
  exact hfinal

/-- A child replies with offered actions only, and becomes ready while the option object is as the
MTA's option was put in. -/
def negotiatesAsOffered (offered : MilterOption) : Action → Bool
  | .called _ _ (.negotiateReply reply) => asksForOffered offered reply
  | action => offersAsIs offered.clampVersion action

/-- The steps of a run that ask for offered actions only and offer what the MTA offered lead to
the answers they are to lead to, whatever their order. -/
theorem negotiate_outcome (depth : Nat) (children : List Context) (privilegeMode : Bool)
    (launcher : Launcher) (chunkSize : ChunkSize) (surroundings : Surroundings)
    (offered : MilterOption) (established : ChildId → Bool) (events : List Event)
    (hchildren : ∀ context ∈ children, context.handlers = 0)
    (hevents : ∀ event ∈ events, event.isNegotiation) :
    let traceOf := fun established events => (run depth (.negotiate offered established :: events)
      (State.init children privilegeMode launcher chunkSize surroundings)).trace
    (∀ front before option back,
      traceOf established events = front ++ .emitted before (.negotiateReply option) :: back →
      (IsNegotiated offered (replies front) option ↔
        ∀ reply ∈ replies front, asksForOffered offered reply) ∧
      ∀ established' events', (∀ event ∈ events', event.isNegotiation) →
        ∀ front' before' option' back', traceOf established' events' =
          front' ++ .emitted before' (.negotiateReply option') :: back' →
        (∀ reply, reply ∈ replies front ↔ reply ∈ replies front') → option = option') ∧
    ((traceOf established events).all (negotiatesAsOffered offered) →
      (∀ front before option back,
        traceOf established events = front ++ .emitted before (.negotiateReply option) :: back →
        IsNegotiated offered (replies front) option) ∧
      ∀ child option, .sent child (.negotiate option) ∈ traceOf established events →
        option = offered.clampVersion) := by
  intro traceOf
  have hrun (established : ChildId → Bool) (events : List Event)
      (hevents : ∀ event ∈ events, event.isNegotiation) :=
    outcomeInvariant_run depth privilegeMode launcher chunkSize surroundings offered established
      events hchildren hevents
  have hiff (front before option back)
      (hsplit : traceOf established events =
        front ++ .emitted before (.negotiateReply option) :: back) :=
    ((hrun established events hevents).answers front before option back hsplit).isNegotiated_iff
  refine ⟨fun front before option back hsplit => ⟨hiff front before option back hsplit, ?_⟩,
    fun hall => ⟨fun front before option back hsplit => ?_, fun child option hmem => ?_⟩⟩
  · intro established' events' hevents' front' before' option' back' hsplit' hsame
    have hfrom := (hrun established events hevents).answers front before option back hsplit
    exact hfrom.unique ((hrun established' events' hevents').answers front' before' option' back'
      hsplit') hsame
  · rw [hiff front before option back hsplit]
    intro reply hreply
    obtain ⟨action, hmem, haction⟩ := List.mem_filterMap.mp hreply
    have hstep := List.all_eq_true.mp hall action
      (by rw [hsplit]; exact List.mem_append_left _ hmem)
    split at haction
    · cases haction
      exact hstep
    · cases haction
  · rcases (hrun established events hevents).offers child option hmem with h | ⟨action, hin, hlate⟩
    · exact h
    · have hstep := List.all_eq_true.mp hall action hin
      unfold negotiatesAsOffered at hstep
      split at hstep
      · cases hlate
      · rw [hlate] at hstep
        cases hstep

/-- The options that the negotiation was answered with. -/
def answers (trace : List Action) : List MilterOption :=
  trace.filterMap fun action =>
    match action with
    | .emitted _ (.negotiateReply option) => some option
    | _ => none

/-- The options that a child was offered. -/
def offersTo (child : ChildId) (trace : List Action) : List MilterOption :=
  trace.filterMap fun action =>
    match action with
    | .sent other (.negotiate option) => if other = child then some option else none
    | _ => none

/-- Two children that become ready before the first of them replies. -/
theorem negotiate_outcome_two :
    let s := State.init [.init .accept false false, .init .accept false false] false .absent
      ⟨65535, by decide⟩ .plain
    let events : List Event := [.connected 0 true, .connected 1 true, .flushed 0, .flushed 1,
      .reply 0 (.negotiateReply ⟨6, 0x1#32, 0x401#32⟩),
        .reply 1 (.negotiateReply ⟨6, 0x2#32, 0#32⟩)]
    ∀ child option, .sent child (.negotiate option) ∈
      (run 8 (.negotiate ⟨9, 0xff#32, 0x1fffff#32⟩ (fun _ => true) :: events) s).trace →
      option = ⟨6, 0xff#32, 0x1fffff#32⟩ := by
  refine ((negotiate_outcome 8 _ _ _ _ _ ⟨9, 0xff#32, 0x1fffff#32⟩ _ _ ?_ ?_).2 ?_).2
  · decide
  · decide
  · decide +kernel

/-- The answer has an action that a child asks for and the MTA did not offer, and a child that
becomes ready after the other one has replied is offered something else. -/
theorem negotiate_outcome_ne :
    let s := State.init [.init .accept false false, .init .accept false false] false .absent
      ⟨65535, by decide⟩ .plain
    let offered : MilterOption := ⟨6, 0x1#32, 0x1fffff#32⟩
    let first : List Event := [.connected 0 true, .flushed 0,
      .reply 0 (.negotiateReply ⟨6, 0x10#32, 0#32⟩)]
    let early := (run 8 (.negotiate offered (fun _ => true) :: .connected 1 true :: first) s).trace
    let late := (run 8 (.negotiate offered (fun _ => true) :: first ++ [.connected 1 true]) s).trace
    let answered := run 8 (.negotiate offered (fun _ => true) :: .connected 1 false :: first) s
    offersTo 1 early = [offered] ∧ offersTo 1 late = [⟨6, 0x11#32, 0x100c00#32⟩] ∧
      answers answered.trace = [⟨6, 0x11#32, 0#32⟩] ∧
      ¬ asksForOffered offered ⟨6, 0x11#32, 0#32⟩ := by
  decide +kernel

end MilterManager.Children
