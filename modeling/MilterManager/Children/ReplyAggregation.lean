import Mathlib.Data.List.MinMax
import MilterManager.Children.NegotiateOnce

/-!
# The reply of several children

The children of a queue answer `envelope-from`, `envelope-recipient` and `data` one by one, in any
order; the children object replies when the last of them has answered. From
`milter/manager/milter-manager-children.c:759` and the handlers that end in
`remove_child_from_queue`.
-/

namespace MilterManager.Children

open MilterManager.Base MilterManager.Core MilterManager.Server

/-- The status that counts of two, `milter_manager_children_is_important_status`. -/
def stricter (status newStatus : Status) : Status :=
  if statusCompare status newStatus < 0 then newStatus else status

/-- The place of a status in the order of `milter_status_compare`; the statuses that are no answer
to a command have none. -/
def statusRank : Status → Nat
  | .accept => 1
  | .skip => 2
  | .continue => 3
  | .temporaryFailure => 4
  | .reject => 5
  | .discard => 6
  | _ => 0

theorem stricter_eq (status : Status) {newStatus : Status} (hnew : 0 < statusRank newStatus) :
    stricter status newStatus =
      if statusRank status < statusRank newStatus then newStatus else status := by
  cases newStatus with
  | accept | skip | «continue» | temporaryFailure | reject | discard => cases status <;> rfl
  | _ => exact absurd hnew (Nat.lt_irrefl 0)

theorem rank_injective {status other : Status} (h : statusRank status = statusRank other)
    (hstatus : 0 < statusRank status) : status = other := by
  cases status with
  | accept | skip | «continue» | temporaryFailure | reject | discard =>
      cases other <;> first | rfl | cases h
  | _ => exact absurd hstatus (Nat.lt_irrefl 0)

/-- The strictest of the answers. -/
def strictest (statuses : List Status) : Status := statuses.foldl stricter .notChange

/-- The first of the answers that no other is stricter than. -/
theorem strictest_eq_argmax {statuses : List Status}
    (hstatuses : ∀ status ∈ statuses, 0 < statusRank status) :
    strictest statuses = (statuses.argmax statusRank).getD .notChange := by
  induction statuses using List.reverseRecOn with
  | nil => rfl
  | append_singleton statuses status ih =>
      have hbefore := ih fun other hother => hstatuses other (List.mem_append_left [status] hother)
      have hpos := hstatuses status (List.mem_append_right statuses (List.mem_singleton.mpr rfl))
      rw [strictest, List.foldl_append, List.foldl_cons, List.foldl_nil, ← strictest, hbefore,
        List.argmax_concat, stricter_eq _ hpos]
      cases statuses.argmax statusRank with
      | none => exact if_pos hpos
      | some first =>
          rw [Option.getD_some]
          split <;> simp [*]

/-- The strictest of the answers is one of them, and none is stricter. -/
theorem strictest_spec {statuses : List Status} (hne : statuses ≠ [])
    (hstatuses : ∀ status ∈ statuses, 0 < statusRank status) :
    strictest statuses ∈ statuses ∧
      ∀ status ∈ statuses, statusRank status ≤ statusRank (strictest statuses) := by
  rw [strictest_eq_argmax hstatuses]
  cases hargmax : statuses.argmax statusRank with
  | none => exact absurd (List.argmax_eq_none.mp hargmax) hne
  | some first =>
      rw [Option.getD_some]
      exact ⟨List.argmax_mem hargmax, fun status hstatus => List.le_of_mem_argmax hstatus hargmax⟩

/-- The order in which the answers come does not matter. -/
theorem strictest_perm {statuses others : List Status} (hperm : statuses.Perm others)
    (hstatuses : ∀ status ∈ statuses, 0 < statusRank status) :
    strictest statuses = strictest others := by
  have hothers : ∀ status ∈ others, 0 < statusRank status :=
    fun status hstatus => hstatuses status (hperm.mem_iff.mpr hstatus)
  by_cases hne : statuses = []
  · subst hne
    rw [List.nil_perm.mp hperm]
  · have hne' : others ≠ [] := fun hnil => hne (List.perm_nil.mp (hnil ▸ hperm))
    have hfirst := strictest_spec hne hstatuses
    have hsecond := strictest_spec hne' hothers
    apply rank_injective
    · exact Nat.le_antisymm (hsecond.2 _ (hperm.mem_iff.mp hfirst.1))
        (hfirst.2 _ (hperm.mem_iff.mpr hsecond.1))
    · exact hstatuses _ hfirst.1

/-- The commands that the children object gives to all its children at once, to wait for all their
answers. -/
def isGathered : ContextState → Bool
  | .envelopeFrom | .envelopeRecipient | .data => true
  | _ => false

/-- How a child answers such a command: with a reply, or by not replying. -/
inductive Answer where
  | continue
  | temporaryFailure
  | reject
  | accept
  | discard
  | replyCode (code : Nat) (extendedCode message : Option Bytes)
  | writingTimeout
  | readingTimeout
  | endOfMessageTimeout
  | failed (domain : ErrorDomain)
deriving DecidableEq, Repr

namespace Answer

/-- The signal of the child. -/
def callback : Answer → Callback
  | .continue => .continue
  | temporaryFailure => .temporaryFailure
  | reject => .reject
  | accept => .accept
  | discard => .discard
  | replyCode code extendedCode message => .replyCode code extendedCode message
  | writingTimeout => .writingTimeout
  | readingTimeout => .readingTimeout
  | endOfMessageTimeout => .endOfMessageTimeout
  | failed domain => .error domain

/-- The refusal of a child counts unless it is evaluated only. -/
def refusal (context : Context) (status : Status) : Status :=
  if context.evaluationMode then .accept else status

/-- The status that an answer counts as. -/
def status (context : Context) : Answer → Status
  | .continue => .continue
  | temporaryFailure => refusal context .temporaryFailure
  | reject => refusal context .reject
  | accept => .accept
  | discard => refusal context .discard
  | replyCode code _ _ => refusal context (if code / 100 = 4 then .temporaryFailure else .reject)
  | writingTimeout | readingTimeout | endOfMessageTimeout | failed _ => context.fallbackStatus

/-- The reply code that an answer leaves. -/
def code : Answer → Option (Nat × Option Bytes × Option Bytes)
  | replyCode code extendedCode message => some (code, extendedCode, message)
  | _ => none

end Answer

/-- The reply code that the children object keeps. -/
def keptCode (s : State) : Nat × Option Bytes × Option Bytes :=
  (s.replyCode, s.replyExtendedCode, s.replyMessage)

/-- An answer of a child is counted. -/
structure Counted (state : ContextState) (child : ChildId) (answer : Answer) (s t : State) :
    Prop where
  status : getReplyStatusForState t state =
    stricter (getReplyStatusForState s state) (answer.status (s.context child))
  code : keptCode t = answer.code.getD (keptCode s)
  queue : t.replyQueue = s.replyQueue
  processing : t.processingState = s.processingState
  pending : t.pendingMessageRequest = s.pendingMessageRequest
  contexts : ∀ other, (t.context other).state = (s.context other).state ∧
    (t.context other).evaluationMode = (s.context other).evaluationMode ∧
    (t.context other).fallbackStatus = (s.context other).fallbackStatus

theorem getReplyStatus_compiled (s : State) (state : ContextState) {status : Status}
    (hstatus : 0 < statusRank status) :
    getReplyStatusForState (compiled s state status) state =
      stricter (getReplyStatusForState s state) status := by
  have hdefault : status ≠ .default := by
    rintro rfl
    cases hstatus
  rw [compiled, stricter, isImportantStatus]
  by_cases himportant : statusCompare (getReplyStatusForState s state) status < 0
  · rw [if_pos (decide_eq_true himportant), if_pos himportant, getReplyStatusForState]
    simp [hdefault]
  · rw [if_neg (by simpa using himportant), if_neg himportant]

/-- The state in which a child leaves the queue: its status is counted, the reply code is kept, and
its data is changed. -/
def counted (state : ContextState) (child : ChildId) (status : Status)
    (code : Nat × Option Bytes × Option Bytes) (change : Context → Context) (s : State) : State :=
  { compiled s state status with
    context := Function.update s.context child (change (s.context child))
    replyCode := code.1
    replyExtendedCode := code.2.1
    replyMessage := code.2.2 }

theorem counted_spec {state : ContextState} {child : ChildId} {answer : Answer} {s : State}
    (hranked : 0 < statusRank (answer.status (s.context child))) {change : Context → Context}
    (hstate : ∀ context, (change context).state = context.state)
    (hmode : ∀ context, (change context).evaluationMode = context.evaluationMode)
    (hfallback : ∀ context, (change context).fallbackStatus = context.fallbackStatus) :
    Counted state child answer s
      (counted state child (answer.status (s.context child)) (answer.code.getD (keptCode s)) change
        s) where
  status := getReplyStatus_compiled s state hranked
  code := rfl
  queue := by
    rw [counted, compiled]
    split <;> rfl
  processing := by
    rw [counted, compiled]
    split <;> rfl
  pending := by
    rw [counted, compiled]
    split <;> rfl
  contexts := by
    intro other
    have hcontext : ∀ status code, (counted state child status code change s).context other =
        Function.update s.context child (change (s.context child)) other := fun _ _ => rfl
    rw [hcontext]
    by_cases hother : other = child
    · rw [hother, Function.update_self]
      exact ⟨hstate _, hmode _, hfallback _⟩
    · rw [Function.update_of_ne hother]
      exact ⟨rfl, rfl, rfl⟩

/-- What follows an answer is what follows the child's leaving the queue. -/
def leave (call : Handlers) (child : ChildId) : Program PUnit := do
  let _ ← removeChildFromQueue call child
  pure ⟨⟩

/-- The data of the child that an answer changes. -/
def Answer.change (state : ContextState) : Answer → Context → Context
  | .continue, context => context
  | .accept, context => { context with processingMessage := false }
  | .temporaryFailure, context | .reject, context | .discard, context
  | .replyCode _ _ _, context =>
      if state = .envelopeRecipient then context else { context with processingMessage := false }
  | _, context => { context with quitted := true, handlers := 0 }

variable {call : Handlers} {child : ChildId} {state : ContextState} {s : State}

theorem update_bind (f : State → State) (m : Program PUnit) :
    (Proc.update f >>= fun _ => m) s = m (f s) := rfl

/-- The status is counted, and the data of the child changed, before the child leaves the queue. -/
theorem compile_change_eq (status : Status) (change : Context → Context) (m : Program PUnit) :
    (compileReplyStatus state status >>= fun _ => updateContext child change >>= fun _ => m) s =
      m (counted state child status (keptCode s) change s) := by
  rw [compileReplyStatus_eq, update_bind, updateContext, update_bind]
  apply congrArg m
  rw [counted, compiled]
  split <;> rfl

theorem compile_eq (status : Status) (m : Program PUnit) :
    (compileReplyStatus state status >>= fun _ => m) s =
      m (counted state child status (keptCode s) id s) := by
  rw [compileReplyStatus_eq, update_bind]
  apply congrArg m
  rw [counted, compiled, id, Function.update_eq_self]
  split <;> rfl

theorem refuse_eq (call : Handlers) (hgathered : isGathered state)
    (hstate : (s.context child).state = state)
    (status : Status) :
    refuse call child status s =
      leave call child
        (counted state child (Answer.refusal (s.context child) status) (keptCode s)
          (fun context =>
            if state = .envelopeRecipient then context
            else { context with processingMessage := false }) s) := by
  rw [refuse, contextOf_bind, hstate]
  cases state with
  | envelopeFrom | data => exact compile_change_eq _ _ (leave call child)
  | envelopeRecipient => exact compile_eq _ (leave call child)
  | _ => cases hgathered

theorem continue_eq (hgathered : isGathered state) (hstate : (s.context child).state = state) :
    cbContinue call child s =
      leave call child (counted state child .continue (keptCode s) id s) := by
  rw [cbContinue, contextOf_bind, hstate]
  have hcontinue : ∀ t, (continueFrom call child state >>= fun status => handleStatus status) t =
      leave call child t := by
    intro t
    cases state with
    | envelopeFrom | envelopeRecipient | data =>
        simp [continueFrom, handleStatus, leave]
    | _ => cases hgathered
  rw [compile_eq, hcontinue]

theorem accept_eq (hgathered : isGathered state) (hstate : (s.context child).state = state) :
    cbAccept call child s =
      leave call child
        (counted state child .accept (keptCode s)
          (fun context => { context with processingMessage := false }) s) := by
  rw [cbAccept, contextOf_bind, hstate]
  cases state with
  | envelopeFrom | envelopeRecipient | data => exact compile_change_eq _ _ (leave call child)
  | _ => cases hgathered

theorem fallBack_eq (hstate : (s.context child).state = state) :
    fallBack call child s =
      leave call child
        (counted state child (s.context child).fallbackStatus (keptCode s)
          (fun context => { context with quitted := true, handlers := 0 }) s) := by
  rw [fallBack, contextOf_bind, hstate]
  exact compile_change_eq _ _ (leave call child)

theorem replyCode_eq (code : Nat) (extendedCode message : Option Bytes) :
    cbReplyCode call child code extendedCode message s =
      refuse call child (if code / 100 = 4 then .temporaryFailure else .reject)
        { s with
          replyCode := code, replyExtendedCode := extendedCode, replyMessage := message } := by
  rw [cbReplyCode, disposeReplyRelatedData, update_bind, update_bind]
  split <;> rfl

theorem counted_withCode (status : Status) (change : Context → Context)
    (code : Nat × Option Bytes × Option Bytes) :
    counted state child status code change
        { s with replyCode := code.1, replyExtendedCode := code.2.1, replyMessage := code.2.2 } =
      counted state child status code change s := by
  have himportant : isImportantStatus
      { s with replyCode := code.1, replyExtendedCode := code.2.1, replyMessage := code.2.2 } state
      status = isImportantStatus s state status := rfl
  rw [counted, counted, compiled, compiled, himportant]
  split <;> rfl

/-- Every answer is counted, and the child leaves the queue. -/
theorem handle_answer (hgathered : isGathered state) (hstate : (s.context child).state = state)
    (answer : Answer) :
    handle call child answer.callback s =
      leave call child
        (counted state child (answer.status (s.context child)) (answer.code.getD (keptCode s))
          (answer.change state) s) := by
  cases answer with
  | «continue» => exact continue_eq hgathered hstate
  | temporaryFailure | reject | discard => exact refuse_eq call hgathered hstate _
  | accept => exact accept_eq hgathered hstate
  | replyCode code extendedCode message =>
      have hrefuse := refuse_eq call
        (s := { s with
          replyCode := code, replyExtendedCode := extendedCode, replyMessage := message })
        hgathered hstate (if code / 100 = 4 then .temporaryFailure else .reject)
      exact (replyCode_eq code extendedCode message).trans (hrefuse.trans (congrArg _
        (counted_withCode _ _ (code, extendedCode, message))))
  | writingTimeout | readingTimeout | endOfMessageTimeout | failed => exact fallBack_eq hstate

/-- What `remove_child_from_queue` does once the child is removed. -/
def replyOfQueue (call : Handlers) : Program Status := do
  let s ← Proc.getState
  if s.replyQueue ≠ [] then pure .progress
  else
    let status := getReplyStatusForState s s.processingState
    let processed ← resumePendingMessageRequest call status
    if processed then pure .progress
    else
      let s ← Proc.getState
      emitReplyStatusOfState s.processingState
      let s ← Proc.getState
      Proc.when (abortsWithStatus s.processingState status) <| childrenAbort call
      pure status

theorem leave_eq :
    leave call child s =
      (replyOfQueue call >>= fun _ => pure ⟨⟩) { s with replyQueue := s.replyQueue.erase child } :=
  rfl

theorem leave_of_others (h : s.replyQueue.erase child ≠ []) :
    leave call child s = ⟨⟨⟩, { s with replyQueue := s.replyQueue.erase child }, []⟩ := by
  rw [leave_eq]
  simp [replyOfQueue, h]

/-- The reply to a command with a status and a reply code. -/
def replySignal (code : Nat × Option Bytes × Option Bytes) (status : Status) : Signal :=
  if (code.1 / 100 == 4 && status == .temporaryFailure) ||
      (code.1 / 100 == 5 && status == .reject) then
    .replyCode code.1 code.2.1 code.2.2
  else statusToSignal status

theorem emitReplyStatus_signals {status : Status} (hstatus : status ≠ .notChange) :
    signals (emitReplyStatus s status s).trace = [replySignal (keptCode s) status] := by
  rw [emitReplyStatus, replySignal]
  by_cases hfits : replyCodeFits s status
  · rw [if_pos hfits, if_pos (by exact hfits)]
    rfl
  · rw [if_neg hfits, if_neg (by exact hfits), Proc.when, if_pos hstatus]
    rfl

theorem signals_append (front back : List Action) :
    signals (front ++ back) = signals front ++ signals back := List.filterMap_append

theorem emitReplyStatus_processingState (status : Status) :
    (emitReplyStatus s status s).state.processingState = s.processingState := by
  rw [emitReplyStatus]
  split
  · rfl
  · rw [Proc.when]
    split <;> rfl

theorem emitReplyStatusOfState_eq (hstate : state ≠ .endOfMessage) {status : Status}
    (hstatus : getReplyStatusForState s state = status) :
    emitReplyStatusOfState state s = emitReplyStatus s status s := by
  rw [emitReplyStatusOfState, Proc.bind_apply, Proc.getState_apply]
  simp [hstatus, Proc.when, hstate]

/-- The children object replies, and whatever an abort of the other children does follows. -/
theorem replyOfQueue_of_nil (call : Handlers) (h : s.replyQueue = [])
    (hpending : s.pendingMessageRequest = none)
    (hstate : s.processingState ≠ .endOfMessage) {status : Status}
    (hstatus : getReplyStatusForState s s.processingState = status) :
    (replyOfQueue call s).trace =
      (emitReplyStatus s status s).trace ++
        (Proc.when (abortsWithStatus s.processingState status) (childrenAbort call)
          (emitReplyStatus s status s).state).trace := by
  have hemit := emitReplyStatusOfState_eq hstate hstatus
  have hprocessing := emitReplyStatus_processingState (s := s) status
  simp [replyOfQueue, resumePendingMessageRequest, h, hpending, hstatus, hemit, hprocessing]

theorem leave_of_last (call : Handlers) (h : s.replyQueue.erase child = [])
    (hpending : s.pendingMessageRequest = none)
    (hgathered : isGathered s.processingState) {status : Status}
    (hstatus : getReplyStatusForState s s.processingState = status) (hne : status ≠ .notChange) :
    ∃ rest, signals (leave call child s).trace = replySignal (keptCode s) status :: rest ∧
      (abortsWithStatus s.processingState status = false → rest = []) := by
  have hstate : s.processingState ≠ .endOfMessage := by
    intro heq
    rw [heq] at hgathered
    cases hgathered
  have hreply : (leave call child s).trace = _ :=
    (congrArg Outcome.trace leave_eq).trans ((List.append_nil _).trans
      (replyOfQueue_of_nil call
        (s := { s with replyQueue := s.replyQueue.erase child }) h hpending hstate hstatus))
  have hsignals := emitReplyStatus_signals
    (s := { s with replyQueue := s.replyQueue.erase child }) hne
  rw [hreply, signals_append, hsignals]
  refine ⟨_, rfl, fun haborts => ?_⟩
  dsimp only
  rw [haborts]
  rfl

/-- The children of a queue answer one after the other. -/
def gather (call : Handlers) (answers : List (ChildId × Answer)) : Program PUnit :=
  Proc.each (fun answer => handle call answer.1 answer.2.callback) answers

theorem gather_append (call : Handlers) (front back : List (ChildId × Answer)) (s : State) :
    (gather call (front ++ back) s).trace =
      (gather call front s).trace ++ (gather call back (gather call front s).state).trace :=
  congrArg Outcome.trace (Proc.each_append _ front back s)

theorem gather_singleton (call : Handlers) (answer : ChildId × Answer) (s : State) :
    (gather call [answer] s).trace = (handle call answer.1 answer.2.callback s).trace :=
  List.append_nil _

/-- The children object has given a command to `children`, and waits for their answers. -/
structure Awaits (state : ContextState) (children : List ChildId) (s : State) : Prop where
  gathered : isGathered state
  processing : s.processingState = state
  queue : s.replyQueue.Perm children
  nodup : children.Nodup
  pending : s.pendingMessageRequest = none
  states : ∀ child ∈ children, (s.context child).state = state

/-- What an answer counts as. -/
def countedStatus (s : State) (answer : ChildId × Answer) : Status :=
  answer.2.status (s.context answer.1)

/-- The reply code after some answers. -/
def lastCode (s : State) (answers : List (ChildId × Answer)) : Nat × Option Bytes × Option Bytes :=
  answers.foldl (fun code answer => answer.2.code.getD code) (keptCode s)

variable {answer : Answer} {children : List ChildId}

theorem Answer.change_keeps (state : ContextState) (answer : Answer) (context : Context) :
    (answer.change state context).state = context.state ∧
      (answer.change state context).evaluationMode = context.evaluationMode ∧
      (answer.change state context).fallbackStatus = context.fallbackStatus := by
  cases answer with
  | temporaryFailure | reject | discard | replyCode =>
      rw [Answer.change]
      split <;> exact ⟨rfl, rfl, rfl⟩
  | _ => exact ⟨rfl, rfl, rfl⟩

theorem Answer.status_congr {context other : Context} (answer : Answer)
    (hmode : context.evaluationMode = other.evaluationMode)
    (hfallback : context.fallbackStatus = other.fallbackStatus) :
    answer.status context = answer.status other := by
  cases answer with
  | «continue» | accept => rfl
  | temporaryFailure | reject | discard | replyCode =>
      show (if context.evaluationMode then _ else _) = if other.evaluationMode then _ else _
      rw [hmode]
  | _ => exact hfallback

theorem counted_answer (state : ContextState)
    (hranked : 0 < statusRank (countedStatus s (child, answer))) :
    Counted state child answer s
      (counted state child (answer.status (s.context child)) (answer.code.getD (keptCode s))
        (answer.change state) s) :=
  counted_spec hranked (fun context => (answer.change_keeps state context).1)
    (fun context => (answer.change_keeps state context).2.1)
    (fun context => (answer.change_keeps state context).2.2)

/-- An answer that is not the last one is counted, and nothing else happens. -/
theorem handle_of_others (call : Handlers) (answer : Answer)
    (h : Awaits state (child :: children) s) (hothers : children ≠ [])
    (hranked : 0 < statusRank (countedStatus s (child, answer))) :
    ∃ t, handle call child answer.callback s = ⟨⟨⟩, t, []⟩ ∧ Awaits state children t ∧
      getReplyStatusForState t state =
        stricter (getReplyStatusForState s state) (countedStatus s (child, answer)) ∧
      keptCode t = answer.code.getD (keptCode s) ∧
      ∀ answer, countedStatus t answer = countedStatus s answer := by
  have hcounted := counted_answer state hranked
  have hqueue : (counted state child (answer.status (s.context child))
      (answer.code.getD (keptCode s)) (answer.change state) s).replyQueue.erase child =
        s.replyQueue.erase child := by rw [hcounted.queue]
  have hperm : (s.replyQueue.erase child).Perm children := by
    have herase := h.queue.erase child
    rwa [List.erase_cons_head] at herase
  have hne : s.replyQueue.erase child ≠ [] := by
    intro hnil
    rw [hnil] at hperm
    exact hothers (List.nil_perm.mp hperm)
  refine ⟨_, (handle_answer h.gathered (h.states child List.mem_cons_self) answer).trans
    (leave_of_others (hqueue ▸ hne)), ?_, hcounted.status, hcounted.code, ?_⟩
  · exact
      { gathered := h.gathered
        processing := hcounted.processing.trans h.processing
        queue := by
          dsimp only
          rw [hqueue]
          exact hperm
        nodup := (List.nodup_cons.mp h.nodup).2
        pending := hcounted.pending.trans h.pending
        states := by
          intro other hother
          rw [(hcounted.contexts other).1]
          exact h.states other (List.mem_cons_of_mem child hother) }
  · intro answer
    have hcontext := hcounted.contexts answer.1
    exact answer.2.status_congr hcontext.2.1 hcontext.2.2

/-- The last answer is counted, and the children object replies. -/
theorem handle_of_last (call : Handlers) (h : Awaits state [child] s)
    (hranked : 0 < statusRank (countedStatus s (child, answer))) {status : Status}
    (hstatus : stricter (getReplyStatusForState s state) (countedStatus s (child, answer)) = status)
    (hne : status ≠ .notChange) :
    ∃ rest, signals (handle call child answer.callback s).trace =
        replySignal (answer.code.getD (keptCode s)) status :: rest ∧
      (abortsWithStatus state status = false → rest = []) := by
  have hcounted := counted_answer state hranked
  have hqueue : (counted state child (answer.status (s.context child))
      (answer.code.getD (keptCode s)) (answer.change state) s).replyQueue.erase child = [] := by
    rw [hcounted.queue, List.perm_singleton.mp h.queue, List.erase_cons_head]
  have hprocessing := hcounted.processing.trans h.processing
  have hleave := leave_of_last call hqueue (hcounted.pending.trans h.pending)
    (by rw [hprocessing]; exact h.gathered)
    (by rw [hprocessing]; exact hcounted.status.trans hstatus) hne
  rw [hprocessing, hcounted.code] at hleave
  rw [handle_answer h.gathered (h.states child List.mem_cons_self) answer]
  exact hleave

/-- While answers are missing nothing is emitted: the induction is on the answers that came. -/
theorem gather_of_missing (call : Handlers) (front : List (ChildId × Answer)) :
    ∀ {s : State}, Awaits state (front.map Prod.fst ++ children) s → children ≠ [] →
      (∀ answer ∈ front, 0 < statusRank (countedStatus s answer)) →
      ∃ t, gather call front s = ⟨⟨⟩, t, []⟩ ∧ Awaits state children t ∧
        getReplyStatusForState t state =
          (front.map (countedStatus s)).foldl stricter (getReplyStatusForState s state) ∧
        keptCode t = lastCode s front ∧
        ∀ answer, countedStatus t answer = countedStatus s answer := by
  induction front with
  | nil => exact fun h _ _ => ⟨_, rfl, h, rfl, rfl, fun _ => rfl⟩
  | cons first front ih =>
      intro s h hne hranked
      have hrest : front.map Prod.fst ++ children ≠ [] :=
        fun hnil => hne (List.append_eq_nil_iff.mp hnil).2
      rcases handle_of_others call first.2 h hrest
          (hranked first List.mem_cons_self) with ⟨t, ht, hawaits, hstatus, hcode, hsame⟩
      have hranked' : ∀ answer ∈ front, 0 < statusRank (countedStatus t answer) := by
        intro answer hanswer
        rw [hsame answer]
        exact hranked answer (List.mem_cons_of_mem first hanswer)
      rcases ih hawaits hne hranked' with ⟨u, hu, hmissing, hstatuses, hcodes, hsame'⟩
      refine ⟨u, ?_, hmissing, ?_, ?_, fun answer => (hsame' answer).trans (hsame answer)⟩
      · show (handle call first.1 first.2.callback >>= fun _ => gather call front) s = _
        rw [Proc.bind_apply, ht, hu]
        rfl
      · have hmap : front.map (countedStatus t) = front.map (countedStatus s) :=
          List.map_congr_left fun answer _ => hsame answer
        rw [hstatuses, hmap, hstatus]
        rfl
      · rw [hcodes, lastCode, hcode]
        rfl

/-- The children object emits nothing before the last child has answered, and then replies with the
strictest of the answers first, with the reply code that came last when it is of its kind. -/
theorem reply_of_answers (call : Handlers) (answers : List (ChildId × Answer))
    (h : Awaits state (answers.map Prod.fst) s)
    (hfresh : getReplyStatusForState s state = .notChange)
    (hne : answers ≠ []) (hranked : ∀ answer ∈ answers, 0 < statusRank (countedStatus s answer)) :
    (∀ front back, answers = front ++ back → back ≠ [] → (gather call front s).trace = []) ∧
      ∃ rest, signals (gather call answers s).trace =
          replySignal (lastCode s answers) (strictest (answers.map (countedStatus s))) :: rest ∧
        (abortsWithStatus state (strictest (answers.map (countedStatus s))) = false →
          rest = []) := by
  constructor
  · rintro front back rfl hback
    rw [List.map_append] at h
    rcases gather_of_missing call front h (fun hnil => hback (List.map_eq_nil_iff.mp hnil))
        (fun answer hanswer => hranked answer (List.mem_append_left back hanswer)) with ⟨t, ht, -⟩
    rw [ht]
  · rcases List.eq_nil_or_concat answers with hnil | ⟨front, last, hanswers⟩
    · exact absurd hnil hne
    · subst hanswers
      rw [List.concat_eq_append] at *
      have hcounts : ∀ status ∈ (front ++ [last]).map (countedStatus s), 0 < statusRank status := by
        intro status hstatus
        rcases List.mem_map.mp hstatus with ⟨answer, hanswer, rfl⟩
        exact hranked answer hanswer
      have hspec := strictest_spec (fun hnil => hne (List.map_eq_nil_iff.mp hnil)) hcounts
      have hstrictest : strictest ((front ++ [last]).map (countedStatus s)) ≠ .notChange := by
        intro hnone
        have hpos := hcounts _ hspec.1
        rw [hnone] at hpos
        exact absurd hpos (Nat.lt_irrefl 0)
      rw [List.map_append] at h
      rcases gather_of_missing call front h (List.cons_ne_nil _ _)
          (fun answer hanswer => hranked answer (List.mem_append_left [last] hanswer)) with
        ⟨t, ht, hawaits, hstatus, hcode, hsame⟩
      have hlast : 0 < statusRank (countedStatus t (last.1, last.2)) := by
        rw [hsame]
        exact hranked last (List.mem_append_right front (List.mem_singleton.mpr rfl))
      have hcompiled :
          stricter (getReplyStatusForState t state) (countedStatus t (last.1, last.2)) =
            strictest ((front ++ [last]).map (countedStatus s)) := by
        rw [hstatus, hfresh, hsame, strictest, List.map_append, List.foldl_append]
        rfl
      have hcodes : last.2.code.getD (keptCode t) = lastCode s (front ++ [last]) := by
        rw [hcode, lastCode, lastCode, List.foldl_append]
        rfl
      rcases handle_of_last call hawaits hlast hcompiled hstrictest with
        ⟨rest, hrest, hquiet⟩
      refine ⟨rest, ?_, hquiet⟩
      rw [gather_append, ht, ← hcodes, ← hrest, List.nil_append, gather_singleton]

/-- A session with two children, of which the second is evaluated only, up to a recipient. -/
def askedForRecipient : List Event :=
  .negotiate ⟨6, 0xff#32, 0x1fffff#32⟩ (fun _ => true) ::
    ([0, 1].flatMap fun child =>
      [.connected child true, .flushed child, .reply child (.negotiateReply ⟨6, 0#32, 0#32⟩)]) ++
    [.envelopeFrom [115], .flushed 0, .flushed 1, .reply 0 .continue, .reply 1 .continue,
      .envelopeRecipient [99], .flushed 0, .flushed 1]

/-- The children object that has asked for a recipient. -/
def asking : State :=
  (run 8 askedForRecipient (State.init [.init .accept false false, .init .accept true false] false
    .absent ⟨4096, Nat.le_of_ble_eq_true rfl⟩ .plain)).state

theorem awaits_asking : Awaits .envelopeRecipient [1, 0] asking where
  gathered := rfl
  processing := by decide +kernel
  queue := by
    have hqueue : asking.replyQueue = [0, 1] := by decide +kernel
    rw [hqueue]
    decide
  nodup := by decide
  pending := by decide +kernel
  states := by decide +kernel

/-- The rejection of the second child is in vain, and the reply code of the first is passed on. -/
theorem reply_of_answers_asking :
    (∀ front back, [(1, Answer.reject), (0, .replyCode 451 none none)] = front ++ back → back ≠ [] →
        (gather (dispatch 8) front asking).trace = []) ∧
      signals (gather (dispatch 8) [(1, .reject), (0, .replyCode 451 none none)] asking).trace =
        [.replyCode 451 none none] := by
  have hreply := reply_of_answers (dispatch 8) [(1, .reject), (0, .replyCode 451 none none)]
    awaits_asking (by decide +kernel) (by decide) (by decide +kernel)
  have hsignal : replySignal (lastCode asking [(1, .reject), (0, .replyCode 451 none none)])
      (strictest ([(1, Answer.reject), (0, .replyCode 451 none none)].map (countedStatus asking))) =
        .replyCode 451 none none := by decide +kernel
  rcases hreply with ⟨hmissing, rest, hrest, hquiet⟩
  rw [hsignal, hquiet (by decide +kernel)] at hrest
  exact ⟨hmissing, hrest⟩

/-- What a command is replied with does not depend on the order of the answers, the text of a reply
code apart. -/
theorem reply_of_answers_perm (call : Handlers) (answers others : List (ChildId × Answer))
    (h : Awaits state (answers.map Prod.fst) s)
    (hfresh : getReplyStatusForState s state = .notChange)
    (hne : answers ≠ []) (hranked : ∀ answer ∈ answers, 0 < statusRank (countedStatus s answer))
    (hperm : answers.Perm others) :
    (signals (gather call answers s).trace).head? =
        some (replySignal (lastCode s answers) (strictest (answers.map (countedStatus s)))) ∧
      (signals (gather call others s).trace).head? =
        some (replySignal (lastCode s others) (strictest (answers.map (countedStatus s)))) := by
  have hawaits : Awaits state (others.map Prod.fst) s :=
    { h with
      queue := h.queue.trans (hperm.map Prod.fst)
      nodup := (hperm.map Prod.fst).nodup_iff.mp h.nodup
      states := fun child hchild => h.states child ((hperm.map Prod.fst).mem_iff.mpr hchild) }
  have hne' : others ≠ [] := fun hnil => hne (List.perm_nil.mp (hnil ▸ hperm))
  have hranked' : ∀ answer ∈ others, 0 < statusRank (countedStatus s answer) :=
    fun answer hanswer => hranked answer (hperm.mem_iff.mpr hanswer)
  have hstrictest : strictest (answers.map (countedStatus s)) =
      strictest (others.map (countedStatus s)) := by
    apply strictest_perm (hperm.map _)
    intro status hstatus
    rcases List.mem_map.mp hstatus with ⟨answer, hanswer, rfl⟩
    exact hranked answer hanswer
  rcases (reply_of_answers call answers h hfresh hne hranked).2 with ⟨rest, hrest, -⟩
  rcases (reply_of_answers call others hawaits hfresh hne' hranked').2 with ⟨rest', hrest', -⟩
  constructor
  · rw [hrest]
    rfl
  · rw [hrest', hstrictest]
    rfl

/-- The reply code of a child that is evaluated only takes the place of the one that counts, when it
comes last. -/
theorem reply_of_answers_perm_asking :
    (signals (gather (dispatch 8)
        [(1, .replyCode 550 none none), (0, .replyCode 451 none none)] asking).trace).head? =
        some (.replyCode 451 none none) ∧
      (signals (gather (dispatch 8)
        [(0, .replyCode 451 none none), (1, .replyCode 550 none none)] asking).trace).head? =
        some .temporaryFailure := by
  have hreply := reply_of_answers_perm (dispatch 8)
    [(1, .replyCode 550 none none), (0, .replyCode 451 none none)]
    [(0, .replyCode 451 none none), (1, .replyCode 550 none none)]
    awaits_asking (by decide +kernel) (by decide) (by decide +kernel) (by decide)
  have hfirst : replySignal
      (lastCode asking [(1, .replyCode 550 none none), (0, .replyCode 451 none none)])
      (strictest ([(1, Answer.replyCode 550 none none), (0, .replyCode 451 none none)].map
        (countedStatus asking))) = .replyCode 451 none none := by decide +kernel
  have hsecond : replySignal
      (lastCode asking [(0, .replyCode 451 none none), (1, .replyCode 550 none none)])
      (strictest ([(1, Answer.replyCode 550 none none), (0, .replyCode 451 none none)].map
        (countedStatus asking))) = .temporaryFailure := by decide +kernel
  rwa [hfirst, hsecond] at hreply

end MilterManager.Children
