import MilterManager.Children.ContextsKeep

/-!
# A child in evaluation mode

A child in evaluation mode is taken to accept whenever it refuses, and what it changes in a message
is ignored. Two runs that differ only in such answers of one child go through the same states, as
long as the child refuses before the recipients of a message or at `DATA`, without a reply code,
and modifies at the end of a message. Elsewhere a refusal ends the message for all children.
-/

namespace MilterManager.Children

open MilterManager.Base MilterManager.Core MilterManager.Server

/-- A reply that refuses what the child was asked. -/
def isRefusal : Reply → Bool
  | .temporaryFailure | .reject | .discard | .replyCode _ _ _ => true
  | _ => false

/-- A reply that modifies a message. -/
def isModification : Reply → Bool
  | .addHeader _ _ | .insertHeader _ _ _ | .changeHeader _ _ _ | .deleteHeader _ _
  | .changeFrom _ _ | .addRecipient _ _ | .deleteRecipient _ | .replaceBody _ | .quarantine _ =>
      true
  | _ => false

/-- A modification after which the child has a message result. -/
def recordsResult : Reply → Bool
  | .addHeader _ _ | .insertHeader _ _ _ | .changeHeader _ _ _ | .deleteHeader _ _
  | .quarantine _ => true
  | _ => false

/-- The reply that a child in evaluation mode is taken to give. -/
def asEvaluated (reply : Reply) : Option Reply :=
  if isRefusal reply then some .accept else if isModification reply then none else some reply

/-- The events in which `child` gives the replies it is taken to give. -/
def Event.evaluated (child : ChildId) : Event → List Event
  | .reply other answer =>
      if other = child then ((asEvaluated answer).map (.reply child)).toList
      else [.reply other answer]
  | event => [event]

/-- The states in which a refusal and an acceptance are handled differently. -/
def refusalShows : ContextState → Bool
  | .envelopeRecipient | .header | .endOfHeader | .body | .endOfMessage => true
  | _ => false

/-- The states in which a reply code is expected, apart from that of a recipient. -/
def takesReplyCode : ContextState → Bool
  | .connect | .helo | .envelopeFrom | .data | .unknown | .header | .endOfHeader | .body
  | .endOfMessage => true
  | _ => false

/-- The replies of the child are read. -/
def isListening (context : Context) : Bool :=
  context.writer ≠ .absent && !context.finished

/-- The reply of a child has no consequences that the reply it is taken to give has not. -/
def answersInVain (child : ChildId) (s : State) : Event → Bool
  | .reply other reply =>
      other ≠ child || !isListening (s.context child) ||
      (match reply with
        | .replyCode _ _ _ => (s.context child).quitted && takesReplyCode (s.context child).state
        | reply =>
            if isRefusal reply then
              ((s.context child).quitted && (s.context child).state ≠ .envelopeRecipient) ||
                (!refusalShows (s.context child).state && (s.context child).handlers ≤ 1)
            else if isModification reply then
              (s.context child).state = .endOfMessage &&
                ((s.context child).quitted || (s.context child).messageResult.isSome ||
                  !recordsResult reply)
            else true)
  | _ => true

/-- Every reply of the child in a run is without consequences of its own. -/
def allInVain (depth : Nat) (child : ChildId) : List Event → State → Bool
  | [], _ => true
  | event :: events, s =>
      answersInVain child s event &&
        allInVain depth child events (perform (dispatch depth) event s).state

/-- A trace without the entries for handlers of `child`. -/
def apartFrom (child : ChildId) (trace : List Action) : List Action :=
  trace.filter fun action =>
    match action with
    | .called _ other _ => other ≠ child
    | _ => true

/-- Two programs that differ only in which handlers of `child` they enter. -/
def SameSteps {α : Type} (child : ChildId) (m n : Program α) (s : State) : Prop :=
  (m s).value = (n s).value ∧ (m s).state = (n s).state ∧
    apartFrom child (m s).trace = apartFrom child (n s).trace

section Steps

variable {α β : Type} {child : ChildId} {s : State}

theorem apartFrom_append (front back : List Action) :
    apartFrom child (front ++ back) = apartFrom child front ++ apartFrom child back := by
  simp [apartFrom]

theorem apartFrom_cons (action : Action) (trace : List Action) :
    apartFrom child (action :: trace) = apartFrom child [action] ++ apartFrom child trace :=
  apartFrom_append [action] trace

theorem SameSteps.refl {m : Program α} : SameSteps child m m s :=
  ⟨rfl, rfl, rfl⟩

theorem SameSteps.of_eq {m n : Program α} (h : m s = n s) : SameSteps child m n s := by
  unfold SameSteps
  rw [h]
  exact ⟨rfl, rfl, rfl⟩

theorem SameSteps.symm {m n : Program α} (h : SameSteps child m n s) : SameSteps child n m s :=
  ⟨h.1.symm, h.2.1.symm, h.2.2.symm⟩

theorem SameSteps.trans {l m n : Program α} (h : SameSteps child l m s)
    (h' : SameSteps child m n s) : SameSteps child l n s :=
  ⟨h.1.trans h'.1, h.2.1.trans h'.2.1, h.2.2.trans h'.2.2⟩

theorem SameSteps.bind {m n : Program α} {f g : α → Program β} (h : SameSteps child m n s)
    (hrest : SameSteps child (f (m s).value) (g (m s).value) (m s).state) :
    SameSteps child (m >>= f) (n >>= g) s := by
  obtain ⟨hvalue, hstate, htrace⟩ := h
  obtain ⟨hvalue', hstate', htrace'⟩ := hrest
  refine ⟨?_, ?_, ?_⟩
  · rw [Proc.bind_apply, Proc.bind_apply, ← hvalue, ← hstate]
    exact hvalue'
  · rw [Proc.bind_apply, Proc.bind_apply, ← hvalue, ← hstate]
    exact hstate'
  · rw [Proc.bind_apply, Proc.bind_apply, apartFrom_append, apartFrom_append, ← hvalue, ← hstate,
      htrace, htrace']

/-- Where a refusal does not show, a child in evaluation mode accepts by it. -/
theorem refuse_eq_cbAccept {call : Handlers} {refusal : Status}
    (hmode : (s.context child).evaluationMode = true)
    (hstate : refusalShows (s.context child).state = false) :
    refuse call child refusal s = cbAccept call child s := by
  simp only [refuse, cbAccept, contextOf, Proc.bind_apply, Proc.getState_apply, Proc.pure_apply,
    hmode, if_true]
  cases h : (s.context child).state <;> first | rfl | (rw [h] at hstate; cases hstate)

/-- The callbacks of a refusal without a reply code. -/
def isPlainRefusal : Callback → Bool
  | .temporaryFailure | .reject | .discard => true
  | _ => false

theorem handle_eq_refuse {call : Handlers} {callback : Callback}
    (hcallback : isPlainRefusal callback) :
    ∃ refusal, handle call child callback = refuse call child refusal := by
  cases callback with
  | temporaryFailure => exact ⟨.temporaryFailure, rfl⟩
  | reject => exact ⟨.reject, rfl⟩
  | discard => exact ⟨.discard, rfl⟩
  | _ => cases hcallback

/-- One handler for a refusal in vain does what the handler for an acceptance does. -/
theorem sameSteps_dispatch {depth : Nat} {callback : Callback} (hcallback : isPlainRefusal callback)
    (hmode : (s.context child).evaluationMode = true)
    (hstate : refusalShows (s.context child).state = false) :
    SameSteps child (dispatch depth child callback) (dispatch depth child .accept) s := by
  cases depth with
  | zero => exact SameSteps.refl
  | succ depth =>
      obtain ⟨refusal, hrefuse⟩ := @handle_eq_refuse child (dispatch depth) callback hcallback
      refine SameSteps.bind ⟨rfl, rfl, ?_⟩ (SameSteps.of_eq ?_)
      · simp [apartFrom]
      · rw [hrefuse]
        exact refuse_eq_cbAccept hmode hstate

/-- The child is in evaluation mode, and not at the recipients of a message. -/
def evaluates (child other : ChildId) (context : Context) : Prop :=
  other = child → context.evaluationMode = true ∧ context.state ≠ .envelopeRecipient

theorem isSteady_evaluates (child : ChildId) :
    IsSteady (evaluates child) (· ≠ .envelopeRecipient) where
  step other context next hconfiguration hstate h heq := by
    have hmode : next.evaluationMode = context.evaluationMode := congrArg Prod.snd hconfiguration
    obtain ⟨hevaluates, houtside⟩ := h heq
    refine ⟨by rw [hmode]; exact hevaluates, ?_⟩
    rcases hstate with hsame | henters
    · rw [hsame]
      exact houtside
    · exact henters

/-- No handler moves a child to the recipients of a message. -/
theorem evaluates_connection (child : ChildId) (depth : Nat) :
    ConnectionKeeps (.keeps (eachContext (evaluates child))) (dispatch depth)
      (· ≠ .envelopeRecipient) fun _ => True := by
  refine (isSteady_evaluates child).connection (fun _ => trivial) (fun _ _ => trivial) ?_
  intro other callback
  refine keepsContexts_dispatch (isSteady_evaluates child) (fun state hreplayed heq => ?_) depth
    other callback
  rw [heq] at hreplayed
  cases hreplayed

/-- A loop does the same as another one when each of its steps does. -/
theorem sameSteps_each {γ : Type} {body other : γ → Program PUnit} (inv : State → Prop)
    (xs : List γ)
    (hstep : ∀ x t, inv t → SameSteps child (body x) (other x) t ∧ inv (body x t).state)
    (hinv : inv s) :
    SameSteps child (Proc.each body xs) (Proc.each other xs) s := by
  induction xs generalizing s with
  | nil => exact SameSteps.refl
  | cons x xs ih =>
      obtain ⟨hsame, hnext⟩ := hstep x s hinv
      exact hsame.bind (ih hnext)

/-- Where one handler at most is connected, a signal enters it or none. -/
theorem emitOn_of_handlers_le_one {call : Handlers} {callback : Callback}
    (hhandlers : (s.context child).handlers ≤ 1) :
    emitOn call child callback s =
      if (s.context child).handlers = 0 then ⟨⟨⟩, s, []⟩ else call child callback s := by
  unfold emitOn
  rw [contextOf_bind]
  by_cases hnone : (s.context child).handlers = 0
  · rw [hnone, if_pos rfl]
    rfl
  · have hone : (s.context child).handlers = 1 := by omega
    rw [if_neg hnone, hone, List.replicate_one, Proc.each_cons, Proc.bind_apply, contextOf_bind,
      if_neg hnone]
    simp

/-- The handler for a refusal in vain does what that for an acceptance does. -/
theorem sameSteps_emitOn {depth : Nat} {callback : Callback} (hcallback : isPlainRefusal callback)
    (hmode : (s.context child).evaluationMode = true)
    (hstate : refusalShows (s.context child).state = false)
    (hhandlers : (s.context child).handlers ≤ 1) :
    SameSteps child (emitOn (dispatch depth) child callback)
      (emitOn (dispatch depth) child .accept) s := by
  have hdispatch := @sameSteps_dispatch child s depth callback hcallback hmode hstate
  unfold SameSteps at hdispatch ⊢
  rw [emitOn_of_handlers_le_one hhandlers, emitOn_of_handlers_le_one hhandlers]
  split
  · exact ⟨rfl, rfl, rfl⟩
  · exact hdispatch

/-- Outside of the recipients of a message a rejection concludes it as an acceptance does. -/
theorem sameSteps_concludeReply (houtside : (s.context child).state ≠ .envelopeRecipient) :
    SameSteps child (concludeReply child rejectionConcludes)
      (concludeReply child ContextState.inMessage) s := by
  refine SameSteps.of_eq ?_
  have hsame : rejectionConcludes (s.context child).state = (s.context child).state.inMessage := by
    simp [rejectionConcludes, houtside]
  rw [concludeReply, concludeReply, contextOf_bind, contextOf_bind, hsame]

/-- The reader of the replies treats a refusal in vain as it treats an acceptance. -/
theorem sameSteps_decoderFinalStatus {depth : Nat} {callback : Callback}
    {concludes : ContextState → Bool} (hcallback : isPlainRefusal callback)
    (hconcludes : concludes = rejectionConcludes ∨ concludes = ContextState.inMessage)
    (hinv : eachContext (evaluates child) [] s)
    (hvain : (s.context child).quitted = true ∨
      refusalShows (s.context child).state = false ∧ (s.context child).handlers ≤ 1) :
    SameSteps child (decoderFinalStatus (dispatch depth) child callback concludes)
      (decoderAccept (dispatch depth) child) s := by
  have hkeep := evaluates_connection child depth
  unfold decoderAccept
  unfold decoderFinalStatus
  have htimeout : eachContext (evaluates child) [] (disableTimeout child s).state :=
    hkeep.of_disableTimeout [] s hinv
  have hvain : ((disableTimeout child s).state.context child).quitted = true ∨
      refusalShows ((disableTimeout child s).state.context child).state = false ∧
        ((disableTimeout child s).state.context child).handlers ≤ 1 := by
    simpa [disableTimeout, updateContext] using hvain
  refine SameSteps.bind SameSteps.refl (SameSteps.bind SameSteps.refl ?_)
  generalize (disableTimeout child s).state = t at hvain htimeout ⊢
  show SameSteps child (if !(t.context child).quitted then _ else _)
    (if !(t.context child).quitted then _ else _) t
  by_cases hquitted : (!(t.context child).quitted) = true
  · obtain ⟨hstate, hhandlers⟩ := hvain.resolve_left (by simpa using hquitted)
    rw [if_pos hquitted, if_pos hquitted]
    have hafter : eachContext (evaluates child) []
        (emitOn (dispatch depth) child callback t).state :=
      hkeep.of_emitOn trivial [] t htimeout
    have hemit := @sameSteps_emitOn child t depth callback hcallback (htimeout child rfl).1 hstate
      hhandlers
    refine hemit.bind (SameSteps.bind ?_ SameSteps.refl)
    rcases hconcludes with rfl | rfl
    · exact sameSteps_concludeReply (hafter child (rfl)).2
    · exact SameSteps.refl
  · rw [if_neg hquitted, if_neg hquitted]
    exact SameSteps.refl

/-- A listening child is read. -/
theorem receive_of_isListening {call : Handlers} {reply : Reply}
    (hlistening : isListening (s.context child) = true) :
    receive call child reply s = decode call child reply s := by
  have hwriter : (s.context child).writer ≠ .absent ∧ (!(s.context child).finished) = true := by
    simpa [isListening] using hlistening
  rw [receive, contextOf_bind, if_pos hwriter]

theorem receive_of_not_isListening {call : Handlers} {reply : Reply}
    (hlistening : ¬ isListening (s.context child) = true) :
    receive call child reply s = ⟨⟨⟩, s, []⟩ := by
  have hwriter : ¬ ((s.context child).writer ≠ .absent ∧ (!(s.context child).finished) = true) := by
    simpa [isListening] using hlistening
  rw [receive, contextOf_bind, if_neg hwriter]
  exact rfl

/-- Only at the recipients of a message does a refusal change the recipients. -/
theorem decode_refusal {call : Handlers} (houtside : (s.context child).state ≠ .envelopeRecipient) :
    decode call child .temporaryFailure s =
        decoderFinalStatus call child .temporaryFailure rejectionConcludes s ∧
      decode call child .reject s =
        decoderFinalStatus call child .reject rejectionConcludes s := by
  constructor
  · rw [decode, decoderTemporaryFailure, contextOf_bind, Proc.when, if_neg houtside]
    simp
  · rw [decode, decoderReject, contextOf_bind, Proc.when, if_neg houtside]
    simp

/-- A refusal in vain without a reply code is read as an acceptance. -/
theorem sameSteps_refusal {depth : Nat} {reply : Reply} (hreply : isRefusal reply)
    (hplain : isPlainRefusal (replyCallback reply))
    (hmode : (s.context child).evaluationMode = true)
    (hvain : (s.context child).quitted = true ∧ (s.context child).state ≠ .envelopeRecipient ∨
      refusalShows (s.context child).state = false ∧ (s.context child).handlers ≤ 1) :
    SameSteps child (decode (dispatch depth) child reply) (decode (dispatch depth) child .accept)
      s := by
  have houtside : (s.context child).state ≠ .envelopeRecipient := by
    rcases hvain with ⟨-, houtside⟩ | ⟨hstate, -⟩
    · exact houtside
    · intro heq
      rw [heq] at hstate
      cases hstate
  have hvain := hvain.imp_left And.left
  have hinv : eachContext (evaluates child) [] s := by
    intro other heq
    subst heq
    exact ⟨hmode, houtside⟩
  obtain ⟨hfailure, hreject⟩ := @decode_refusal child s (dispatch depth) houtside
  cases reply with
  | temporaryFailure =>
      refine SameSteps.trans (SameSteps.of_eq hfailure) ?_
      exact sameSteps_decoderFinalStatus hplain (.inl (rfl)) hinv hvain
  | reject =>
      refine SameSteps.trans (SameSteps.of_eq hreject) ?_
      exact sameSteps_decoderFinalStatus hplain (.inl (rfl)) hinv hvain
  | discard => exact sameSteps_decoderFinalStatus hplain (.inr (rfl)) hinv hvain
  | replyCode code extendedCode message => cases hplain
  | _ => cases hreply

/-- A reply code from a child that was told to quit is dropped, as an acceptance is. -/
theorem sameSteps_replyCode {call : Handlers} {code : Nat} {extendedCode message : Option Bytes}
    (hquitted : (s.context child).quitted = true)
    (hstate : takesReplyCode (s.context child).state = true) :
    SameSteps child (decode call child (.replyCode code extendedCode message))
      (decode call child .accept) s := by
  refine SameSteps.of_eq ?_
  simp only [decode, decoderReplyCode, decoderAccept, decoderFinalStatus, contextOf_bind]
  cases h : (s.context child).state <;> rw [h] at hstate <;>
    first
      | exact absurd hstate (by decide)
      | simp [Proc.when, disableTimeout, updateContext, contextOf, hquitted]

/-- The handler for a modification does nothing for a child in evaluation mode. -/
theorem handle_modification {call : Handlers} {reply : Reply} (hreply : isModification reply)
    (hmode : (s.context child).evaluationMode = true)
    (hstate : (s.context child).state = .endOfMessage) :
    handle call child (replyCallback reply) s = ⟨⟨⟩, s, []⟩ := by
  have hmodification (modify : Program PUnit) :
      modification call child modify s = ⟨⟨⟩, s, []⟩ := by
    rw [modification, contextOf_bind, if_pos hstate, hmode]
    exact rfl
  cases reply with
  | addHeader | insertHeader | changeHeader | deleteHeader | changeFrom | addRecipient
  | deleteRecipient | replaceBody | quarantine => exact hmodification _
  | _ => cases hreply

theorem sameSteps_emitOn_modification {depth : Nat} {reply : Reply}
    (hreply : isModification reply) (hmode : (s.context child).evaluationMode = true)
    (hstate : (s.context child).state = .endOfMessage) :
    SameSteps child (emitOn (dispatch depth) child (replyCallback reply)) (pure ⟨⟩) s := by
  have hnothing (xs : List Unit) :
      Proc.each (fun _ => (pure ⟨⟩ : Program PUnit)) xs s = ⟨⟨⟩, s, []⟩ := by
    induction xs with
    | nil => exact rfl
    | cons x xs ih =>
        rw [Proc.each_cons, Proc.bind_apply, Proc.pure_apply, ih]
        exact rfl
  have henter : SameSteps child (dispatch depth child (replyCallback reply)) (pure ⟨⟩) s ∧
      (dispatch depth child (replyCallback reply) s).state = s := by
    cases depth with
    | zero => exact ⟨SameSteps.refl, rfl⟩
    | succ depth =>
        have hhandle := @handle_modification child s (dispatch depth) reply hreply hmode hstate
        simp [SameSteps, dispatch, hhandle, apartFrom]
  unfold emitOn
  refine SameSteps.trans (SameSteps.of_eq (contextOf_bind _ _ _)) ?_
  refine SameSteps.trans ?_
    (SameSteps.of_eq (hnothing (List.replicate (s.context child).handlers ())))
  refine sameSteps_each (· = s) _ ?_ rfl
  rintro _ t rfl
  by_cases hhandlers : (t.context child).handlers = 0
  · refine ⟨SameSteps.of_eq ?_, ?_⟩
    · rw [contextOf_bind, if_pos hhandlers]
    · rw [contextOf_bind, if_pos hhandlers]
      rfl
  · refine ⟨SameSteps.trans (SameSteps.of_eq ?_) henter.1, ?_⟩
    · rw [contextOf_bind, if_neg hhandlers]
    · rw [contextOf_bind, if_neg hhandlers]
      exact henter.2

/-- A child that has a message result has the same one afterwards. -/
theorem ensureMessageResult_of_isSome {context : Context}
    (h : context.messageResult.isSome = true) :
    context.ensureMessageResult = context := by
  obtain ⟨result, hresult⟩ := Option.isSome_iff_exists.mp h
  unfold Context.ensureMessageResult
  rw [hresult, Option.getD_some, ← hresult]

theorem decode_modification {call : Handlers} {reply : Reply} (hreply : isModification reply)
    {context : Context}
    (hresult : context.messageResult.isSome = true ∨ recordsResult reply = false) :
    ∃ conclude, decode call child reply =
      decoderAtEndOfMessage call child (replyCallback reply) conclude ∧
      conclude context = context := by
  cases reply with
  | addHeader | insertHeader | changeHeader | deleteHeader | quarantine =>
      refine ⟨_, rfl, ensureMessageResult_of_isSome ?_⟩
      rcases hresult with hresult | hresult
      · exact hresult
      · cases hresult
  | changeFrom | addRecipient | deleteRecipient | replaceBody => exact ⟨_, rfl, rfl⟩
  | _ => cases hreply

/-- A modification at the end of a message is in vain, unless it leaves a message result. -/
theorem sameSteps_modification {depth : Nat} {reply : Reply} (hreply : isModification reply)
    (hmode : (s.context child).evaluationMode = true)
    (hstate : (s.context child).state = .endOfMessage)
    (hresult : (s.context child).quitted = true ∨
      (s.context child).messageResult.isSome = true ∨ recordsResult reply = false) :
    SameSteps child (decode (dispatch depth) child reply) (pure ⟨⟩) s := by
  by_cases hquitted : (s.context child).quitted = true
  · have hdecode : ∃ conclude, decode (dispatch depth) child reply =
        decoderAtEndOfMessage (dispatch depth) child (replyCallback reply) conclude := by
      cases reply <;> first | exact ⟨_, rfl⟩ | cases hreply
    obtain ⟨conclude, hdecode⟩ := hdecode
    rw [hdecode]
    refine SameSteps.of_eq ?_
    rw [decoderAtEndOfMessage, contextOf_bind, if_pos hstate, hquitted]
    rfl
  obtain ⟨conclude, hdecode, hconclude⟩ :=
    @decode_modification child (dispatch depth) reply hreply (s.context child)
      (hresult.resolve_left hquitted)
  rw [hdecode]
  have hstep : decoderAtEndOfMessage (dispatch depth) child (replyCallback reply) conclude s =
      (emitOn (dispatch depth) child (replyCallback reply) >>= fun _ =>
        updateContext child conclude) s := by
    rw [decoderAtEndOfMessage, contextOf_bind, if_pos hstate, if_pos (by simpa using hquitted)]
  refine SameSteps.trans (SameSteps.of_eq hstep) ?_
  have hemit := @sameSteps_emitOn_modification child s depth reply hreply hmode hstate
  refine SameSteps.trans (SameSteps.bind (g := fun _ => pure ⟨⟩) hemit ?_) (SameSteps.of_eq rfl)
  refine SameSteps.of_eq ?_
  rw [hemit.2.1]
  simp [updateContext, hconclude]

/-- One event of a child in evaluation mode whose answer is in vain. -/
theorem sameSteps_perform {depth : Nat} {event : Event}
    (hmode : (s.context child).evaluationMode = true)
    (hvain : answersInVain child s event = true) :
    SameSteps child (perform (dispatch depth) event)
      (Proc.each (perform (dispatch depth)) (event.evaluated child)) s := by
  have hsingle (other : Event) : SameSteps child (perform (dispatch depth) other)
      (Proc.each (perform (dispatch depth)) [other]) s := by
    refine SameSteps.of_eq ?_
    simp
  cases event with
  | reply other reply =>
      by_cases hother : other = child
      case neg =>
        rw [Event.evaluated, if_neg hother]
        exact hsingle _
      subst hother
      rw [Event.evaluated, if_pos rfl]
      by_cases hlistening : isListening (s.context other) = true
      case neg =>
        have hnothing (reply : Reply) : SameSteps other
            (perform (dispatch depth) (.reply other reply)) (pure ⟨⟩) s :=
          SameSteps.of_eq (receive_of_not_isListening hlistening)
        refine SameSteps.trans (hnothing reply) ?_
        cases asEvaluated reply with
        | none => exact SameSteps.refl
        | some answer =>
            exact SameSteps.trans (hnothing answer).symm (hsingle (.reply other answer))
      have hread (reply : Reply) : SameSteps other (perform (dispatch depth) (.reply other reply))
          (decode (dispatch depth) other reply) s :=
        SameSteps.of_eq (receive_of_isListening hlistening)
      have haccept (hdecode : SameSteps other (decode (dispatch depth) other reply)
          (decode (dispatch depth) other .accept) s) :
          SameSteps other (perform (dispatch depth) (.reply other reply))
            (Proc.each (perform (dispatch depth)) [.reply other .accept]) s :=
        SameSteps.trans (hread reply) (SameSteps.trans hdecode
          (SameSteps.trans (hread .accept).symm (hsingle _)))
      simp only [answersInVain, ne_eq, not_true_eq_false, decide_false, hlistening,
        Bool.not_true, Bool.false_or] at hvain
      by_cases hrefusal : isRefusal reply
      · rw [asEvaluated, if_pos hrefusal]
        refine haccept ?_
        cases reply with
        | replyCode code extendedCode message =>
            rw [Bool.and_eq_true] at hvain
            exact sameSteps_replyCode hvain.1 hvain.2
        | temporaryFailure | reject | discard =>
            refine sameSteps_refusal rfl rfl hmode ?_
            simpa [isRefusal] using hvain
        | _ => cases hrefusal
      by_cases hmodification : isModification reply
      · rw [asEvaluated, if_neg hrefusal, if_pos hmodification]
        refine SameSteps.trans (hread reply) ?_
        have hresult : (s.context other).state = .endOfMessage ∧ ((s.context other).quitted = true ∨
            (s.context other).messageResult.isSome = true ∨ recordsResult reply = false) := by
          have hend : (decide ((s.context other).state = .endOfMessage) &&
              ((s.context other).quitted || (s.context other).messageResult.isSome ||
                !recordsResult reply)) = true := by
            cases reply with
            | addHeader | insertHeader | changeHeader | deleteHeader | changeFrom | addRecipient
            | deleteRecipient | replaceBody | quarantine => exact hvain
            | _ => cases hmodification
          simpa [or_assoc] using hend
        exact sameSteps_modification hmodification hmode hresult.1 hresult.2
      · rw [asEvaluated, if_neg hrefusal, if_neg hmodification]
        exact hsingle _
  | _ => exact hsingle _

/-- The evaluation mode of a child is part of its configuration. -/
theorem evaluationMode_perform {depth : Nat} {event : Event}
    (hmode : (s.context child).evaluationMode = true) :
    ((perform (dispatch depth) event s).state.context child).evaluationMode = true := by
  have hsteady : IsSteady (fun other context => other = child → context.evaluationMode = true)
      fun _ => True :=
    ⟨fun other context next hconfiguration _ h heq => by
      have hsame : next.evaluationMode = context.evaluationMode := congrArg Prod.snd hconfiguration
      rw [hsame]
      exact h heq⟩
  have hcalled (other : ChildId) (callback : Callback) :=
    keepsContexts_dispatch hsteady (fun _ _ => trivial) depth other callback
  have hstart : eachContext (fun other context => other = child → context.evaluationMode = true)
      [] s := by
    intro other heq
    rw [heq]
    exact hmode
  exact keepsContexts_perform hsteady hcalled [] s hstart child rfl

/-- A run in which every answer of the child is in vain. -/
theorem sameSteps_run {depth : Nat} (events : List Event)
    (hmode : (s.context child).evaluationMode = true)
    (hvain : allInVain depth child events s = true) :
    SameSteps child (run depth events) (run depth (events.flatMap (Event.evaluated child))) s := by
  induction events generalizing s with
  | nil => exact SameSteps.refl
  | cons event events ih =>
      rw [allInVain, Bool.and_eq_true] at hvain
      have hstep := @sameSteps_perform child s depth event hmode hvain.1
      have hrest := ih (evaluationMode_perform hmode) hvain.2
      refine SameSteps.trans (SameSteps.bind
        (g := fun _ => run depth (events.flatMap (Event.evaluated child))) hstep hrest)
        (SameSteps.of_eq ?_)
      rw [List.flatMap_cons, run, run, Proc.each_append]
      rfl


end Steps

/-- The commands that a child was sent. -/
def packetsTo (child : ChildId) (trace : List Action) : List Packet :=
  trace.filterMap fun action =>
    match action with
    | .sent other packet => if other = child then some packet else none
    | _ => none

/-- The handlers of a child neither signal nor send anything by being entered. -/
theorem filterMap_apartFrom {β : Type} (f : Action → Option β) (child : ChildId)
    (hf : ∀ before callback, f (.called before child callback) = none) (trace : List Action) :
    (apartFrom child trace).filterMap f = trace.filterMap f := by
  induction trace with
  | nil => rfl
  | cons action trace ih =>
      rw [apartFrom_cons, List.filterMap_append, ih]
      cases action with
      | called before other callback =>
          by_cases heq : other = child
          · subst heq
            simp [apartFrom, hf]
          · simp only [apartFrom, List.filter_cons, heq, decide_true, if_true, List.filter_nil,
              ne_eq, not_false_eq_true]
            rw [← List.filterMap_append, List.singleton_append]
      | _ =>
          simp only [apartFrom, List.filter_cons, if_true, List.filter_nil]
          rw [← List.filterMap_append, List.singleton_append]

/-- Whatever a child in evaluation mode answers in vain, the MTA and the other children see what
they see when the child accepts and modifies nothing. -/
theorem evaluation_noninterference (depth : Nat) (child : ChildId) (events : List Event) (s : State)
    (hmode : (s.context child).evaluationMode = true)
    (hvain : allInVain depth child events s = true) :
    let first := run depth events s
    let second := run depth (events.flatMap (Event.evaluated child)) s
    first.state = second.state ∧ signals first.trace = signals second.trace ∧
      ∀ other, packetsTo other first.trace = packetsTo other second.trace := by
  obtain ⟨-, hstate, htrace⟩ := sameSteps_run events hmode hvain
  refine ⟨hstate, ?_, fun other => ?_⟩
  · have hsignals := congrArg signals htrace
    unfold signals at hsignals ⊢
    rwa [filterMap_apartFrom _ _ (fun _ _ => rfl),
      filterMap_apartFrom _ _ fun _ _ => rfl] at hsignals
  · have hpackets := congrArg (packetsTo other) htrace
    unfold packetsTo at hpackets ⊢
    rwa [filterMap_apartFrom _ _ (fun _ _ => rfl),
      filterMap_apartFrom _ _ fun _ _ => rfl] at hpackets

/-- Two children that have negotiated, the first of them in evaluation mode. -/
def evaluatedSession : List Event :=
  .negotiate ⟨6, 0xff#32, 0x1fffff#32⟩ (fun _ => true) ::
    [0, 1].flatMap fun child =>
      [.connected child true, .flushed child, .reply child (.negotiateReply ⟨6, 0#32, 0#32⟩)]

/-- The first child answers `CONNECT` with `answer`, and the second one rejects `HELO`. -/
def evaluatedConnect (answer : Reply) : List Event :=
  evaluatedSession ++ [.connect [], .flushed 0, .flushed 1, .reply 0 answer, .reply 1 .continue,
    .flushed 0, .helo [], .flushed 1, .reply 1 .reject, .flushed 1]

/-- A rejection at `CONNECT` is in vain. -/
theorem evaluation_noninterference_connect :
    let s := State.init [.init .accept true false, .init .accept false false] false .absent
      ⟨65535, by decide⟩ .plain
    let outcome := run 8 evaluatedSession s
    let events : List Event := [.connect [], .flushed 0, .flushed 1, .reply 0 .reject]
    signals (run 8 events outcome.state).trace =
      signals (run 8 (events.flatMap (Event.evaluated 0)) outcome.state).trace :=
  (evaluation_noninterference 8 0 _ _ (by decide +kernel) (by decide +kernel)).2.1

/-- A reply code of a child in evaluation mode goes out with the rejection of another child, and
its rejection of a header ends the message for the other child. -/
theorem evaluation_interference :
    let s := State.init [.init .accept true false, .init .accept false false] false .absent
      ⟨65535, by decide⟩ .plain
    let connect := evaluatedConnect (.replyCode 550 none none)
    let both (command : Event) : List Event :=
      [command, .flushed 0, .flushed 1, .reply 0 .continue, .reply 1 .continue]
    let message := evaluatedSession ++ both (.envelopeFrom []) ++ both (.envelopeRecipient []) ++
      both .data ++ [.header [65] none, .flushed 0, .reply 0 .reject]
    (signals (run 8 connect s).trace).getLast? = some (.replyCode 550 none none) ∧
      (signals (run 8 (connect.flatMap (Event.evaluated 0)) s).trace).getLast? = some .reject ∧
      (packetsTo 1 (run 8 message s).trace).getLast? = some .abort ∧
      (packetsTo 1 (run 8 (message.flatMap (Event.evaluated 0)) s).trace).getLast? =
        some (.header [65] none) := by
  decide +kernel

end MilterManager.Children
