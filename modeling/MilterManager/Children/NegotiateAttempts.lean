import Mathlib.Data.List.Nodup
import MilterManager.Children.NegotiateOnce
import MilterManager.Children.ObjectKeeps

/-!
# One negotiation attempt for each child

`try_negotiate_ids` holds the children that wait for a connection or for the time to retry it. An
attempt leaves it when the child is offered the option, when the child is dropped, and when the
attempt is replaced by another one, so there is never more than one for a child; but for a child
whose first connection is refused two functions schedule a retry, `child_establish_connection`
itself and, when the launcher was asked to start the child, `milter_manager_children_negotiate`.
-/

namespace MilterManager.Children

open MilterManager.Base MilterManager.Core MilterManager.Server

/-- A negotiate packet written to a child. -/
def isNegotiateTo (child : ChildId) : Action → Bool
  | .sent other (.negotiate _) => other == child
  | _ => false

/-- The signals of a child are connected: `cb_ready` is entered for it. -/
def isConnectingTo (child : ChildId) : Action → Bool
  | .called _ other (.ready _) => other == child
  | _ => false

/-- How many negotiate packets were written to a child. -/
def negotiatedTimes (past : List Action) (child : ChildId) : Nat :=
  past.countP (isNegotiateTo child)

/-- How many times the signals of a child were connected. -/
def connectedTimes (past : List Action) (child : ChildId) : Nat :=
  past.countP (isConnectingTo child)

/-- One negotiation attempt for each child, where `expire_child` leaves a dropped child quitted. -/
structure OneAttemptEach (past : List Action) (s : State) : Prop where
  pendingOnce : (s.tryNegotiateIds.map (·.child)).Nodup
  negotiatedOnce : ∀ child, negotiatedTimes past child ≤ 1
  connectedOnce : ∀ child, connectedTimes past child ≤ 1 ∧ (s.context child).handlers ≤ 1
  onlyConnected : ∀ child, negotiatedTimes past child ≤ connectedTimes past child
  pendingKept : ∀ data ∈ s.tryNegotiateIds, (s.context data.child).quitted = false
  connectedKept : ∀ before child attempt,
    Action.called before child (.ready attempt) ∈ past → (before.context child).quitted = false

/-- A child that was offered an option shows it. -/
def Offered (context : Context) : Prop :=
  context.state = .negotiate ∨ .negotiate ∈ context.nextStates ∨ context.negotiated = true ∨
    context.handlers ≠ 0

/-- A child that has an attempt was neither connected nor dropped, and one that shows an offer was
connected. -/
structure AttemptsKept (past : List Action) (context : ChildId → Context)
    (pending : List NegotiateData) (attempts : Nat) : Prop where
  ids : (pending.map (·.id)).Nodup
  below : ∀ data ∈ pending, data.id < attempts
  once : (pending.map (·.child)).Nodup
  unconnected : ∀ data ∈ pending, connectedTimes past data.child = 0
  kept : ∀ data ∈ pending, (context data.child).quitted = false
  reached : ∀ child, Offered (context child) → 1 ≤ connectedTimes past child
  handlers : ∀ child, (context child).handlers ≤ 1
  connectedOnce : ∀ child, connectedTimes past child ≤ 1
  onlyConnected : ∀ child, negotiatedTimes past child ≤ connectedTimes past child
  connectedKept : ∀ before child attempt,
    Action.called before child (.ready attempt) ∈ past → (before.context child).quitted = false

/-- The invariant of a children object. -/
def attemptsKept (past : List Action) (s : State) : Prop :=
  AttemptsKept past s.context s.tryNegotiateIds s.attempts

theorem AttemptsKept.oneAttemptEach {past : List Action} {s : State} (h : attemptsKept past s) :
    OneAttemptEach past s where
  pendingOnce := h.once
  negotiatedOnce child := Nat.le_trans (h.onlyConnected child) (h.connectedOnce child)
  connectedOnce child := ⟨h.connectedOnce child, h.handlers child⟩
  onlyConnected := h.onlyConnected
  pendingKept := h.kept
  connectedKept := h.connectedKept

/-- An entry of the trace about an offer. -/
def Action.isOffer : Action → Bool
  | .called _ _ (.ready _) | .sent _ (.negotiate _) => true
  | _ => false

theorem Action.isOffer_of_isOwn {action : Action} (h : action.isOwn) : action.isOffer = false := by
  cases action <;> first | rfl | cases h

theorem isConnectingTo_of_not_isOffer {action : Action} (h : action.isOffer = false)
    (child : ChildId) : isConnectingTo child action = false := by
  unfold isConnectingTo
  split
  · cases h
  · rfl

theorem isNegotiateTo_of_not_isOffer {action : Action} (h : action.isOffer = false)
    (child : ChildId) : isNegotiateTo child action = false := by
  unfold isNegotiateTo
  split
  · cases h
  · rfl

/-- Signals once connected stay counted. -/
theorem connectedTimes_append (child : ChildId) (front back : List Action)
    (h : 1 ≤ connectedTimes front child) : 1 ≤ connectedTimes (front ++ back) child := by
  unfold connectedTimes at h ⊢
  rw [List.countP_append]
  omega

namespace AttemptsKept

variable {past : List Action} {context : ChildId → Context} {pending : List NegotiateData}
variable {attempts : Nat} {child : ChildId} {data : NegotiateData}

/-- An entry of the trace that is about no offer. -/
theorem append (h : AttemptsKept past context pending attempts) {action : Action}
    (haction : action.isOffer = false) :
    AttemptsKept (past ++ [action]) context pending attempts := by
  have hconnected (other : ChildId) :
      connectedTimes (past ++ [action]) other = connectedTimes past other := by
    simp [connectedTimes, isConnectingTo_of_not_isOffer haction]
  have hnegotiated (other : ChildId) :
      negotiatedTimes (past ++ [action]) other = negotiatedTimes past other := by
    simp [negotiatedTimes, isNegotiateTo_of_not_isOffer haction]
  refine { h with
    unconnected := fun data hmem => by rw [hconnected]; exact h.unconnected data hmem
    reached := fun other hoffered => by rw [hconnected]; exact h.reached other hoffered
    connectedOnce := fun other => by rw [hconnected]; exact h.connectedOnce other
    onlyConnected := fun other => by
      rw [hconnected, hnegotiated]
      exact h.onlyConnected other
    connectedKept := fun before other attempt hmem => ?_ }
  rcases List.mem_append.mp hmem with hmem | hmem
  · exact h.connectedKept before other attempt hmem
  · rw [List.mem_singleton.mp hmem |>.symm] at haction
    cases haction

/-- The data of one child change. -/
theorem set (h : AttemptsKept past context pending attempts) {next : Context}
    (hhandlers : next.handlers ≤ 1) (hreached : Offered next → 1 ≤ connectedTimes past child)
    (hquitted : connectedTimes past child = 0 → next.quitted = (context child).quitted) :
    AttemptsKept past (Function.update context child next) pending attempts := by
  refine { h with
    kept := fun data hmem => ?_
    reached := fun other hoffered => ?_
    handlers := fun other => ?_ }
  · by_cases heq : data.child = child
    · have hzero := h.unconnected data hmem
      rw [heq] at hzero ⊢
      rw [Function.update_self, hquitted hzero, ← heq]
      exact h.kept data hmem
    · rw [Function.update_of_ne heq]
      exact h.kept data hmem
  · by_cases heq : other = child
    · subst heq
      rw [Function.update_self] at hoffered
      exact hreached hoffered
    · rw [Function.update_of_ne heq] at hoffered
      exact h.reached other hoffered
  · by_cases heq : other = child
    · subst heq
      rw [Function.update_self]
      exact hhandlers
    · rw [Function.update_of_ne heq]
      exact h.handlers other

/-- The attempts of a child all have the same data. -/
theorem eq_of_child (h : AttemptsKept past context pending attempts) (hdata : data ∈ pending)
    {other : NegotiateData} (hother : other ∈ pending) (hchild : other.child = data.child) :
    other = data :=
  List.inj_on_of_nodup_map h.once hother hdata hchild

theorem eq_of_id (h : AttemptsKept past context pending attempts) (hdata : data ∈ pending)
    {other : NegotiateData} (hother : other ∈ pending) (hid : other.id = data.id) :
    other = data :=
  List.inj_on_of_nodup_map h.ids hother hdata hid

/-- Once an attempt is removed there is none for its child. -/
theorem child_ne_of_mem_filter (h : AttemptsKept past context pending attempts)
    (hdata : data ∈ pending) {other : NegotiateData}
    (hother : other ∈ pending.filter (·.id != data.id)) : other.child ≠ data.child := by
  intro hchild
  obtain ⟨hmem, hid⟩ := List.mem_filter.mp hother
  rw [h.eq_of_child hdata hmem hchild] at hid
  simp at hid

/-- An attempt is removed. -/
theorem remove (h : AttemptsKept past context pending attempts) (id : Nat) :
    AttemptsKept past context (pending.filter (·.id != id)) attempts := by
  have hsublist : (pending.filter (·.id != id)).Sublist pending := List.filter_sublist
  exact { h with
    ids := h.ids.sublist (hsublist.map _)
    below := fun data hmem => h.below data (hsublist.subset hmem)
    once := h.once.sublist (hsublist.map _)
    unconnected := fun data hmem => h.unconnected data (hsublist.subset hmem)
    kept := fun data hmem => h.kept data (hsublist.subset hmem) }

/-- An attempt for a child that has none, and that was neither connected nor dropped. -/
theorem add (h : AttemptsKept past context pending attempts)
    (hnone : ∀ data ∈ pending, data.child ≠ child) (hzero : connectedTimes past child = 0)
    (hkept : (context child).quitted = false) (option : Nat) (isRetry retryTimer : Bool) :
    AttemptsKept past context (pending ++ [⟨attempts, child, option, isRetry, retryTimer⟩])
      (attempts + 1) := by
  have hmem {data : NegotiateData}
      (h : data ∈ pending ++ [⟨attempts, child, option, isRetry, retryTimer⟩]) :
      data ∈ pending ∨ data.id = attempts ∧ data.child = child := by
    rcases List.mem_append.mp h with h | h
    · exact .inl h
    · rw [List.mem_singleton.mp h]
      exact .inr ⟨rfl, rfl⟩
  refine { h with
    ids := ?_
    below := fun data hdata => ?_
    once := ?_
    unconnected := fun data hdata => ?_
    kept := fun data hdata => ?_ }
  · rw [List.map_append, List.map_singleton]
    apply List.Nodup.append h.ids (List.nodup_singleton _)
    rintro id hold hnew
    obtain ⟨data, hdata, rfl⟩ := List.mem_map.mp hold
    have hlt := h.below data hdata
    rw [List.mem_singleton.mp hnew] at hlt
    exact Nat.lt_irrefl _ hlt
  · rcases hmem hdata with hold | ⟨hid, -⟩
    · have hlt := h.below data hold
      omega
    · omega
  · rw [List.map_append, List.map_singleton]
    apply List.Nodup.append h.once (List.nodup_singleton _)
    rintro other hold hnew
    obtain ⟨data, hdata, rfl⟩ := List.mem_map.mp hold
    exact hnone data hdata (List.mem_singleton.mp hnew)
  · rcases hmem hdata with hold | ⟨-, hchild⟩
    · exact h.unconnected data hold
    · rw [hchild]
      exact hzero
  · rcases hmem hdata with hold | ⟨-, hchild⟩
    · exact h.kept data hold
    · rw [hchild]
      exact hkept

/-- An attempt takes the place of another one for the same child. -/
theorem replace (h : AttemptsKept past context pending attempts) (hdata : data ∈ pending)
    (option : Nat) (isRetry retryTimer : Bool) :
    AttemptsKept past context
      ((pending ++ [NegotiateData.mk attempts data.child option isRetry retryTimer]).filter
        (·.id != data.id)) (attempts + 1) := by
  have hnew : attempts ≠ data.id := by
    have hlt := h.below data hdata
    omega
  have hkeep : [NegotiateData.mk attempts data.child option isRetry retryTimer].filter
      (·.id != data.id) = [⟨attempts, data.child, option, isRetry, retryTimer⟩] := by
    simp [hnew]
  rw [List.filter_append, hkeep]
  exact (h.remove data.id).add (fun other hother => h.child_ne_of_mem_filter hdata hother)
    (h.unconnected data hdata) (h.kept data hdata) option isRetry retryTimer

/-- A child is dropped together with its attempt. -/
theorem drop (h : AttemptsKept past context pending attempts) (hdata : data ∈ pending) :
    AttemptsKept past
      (Function.update context data.child
        { context data.child with quitted := true, handlers := 0 })
      (pending.filter (·.id != data.id)) attempts := by
  refine { h.remove data.id with
    kept := fun other hother => ?_
    reached := fun other hoffered => ?_
    handlers := fun other => ?_ }
  · rw [Function.update_of_ne (h.child_ne_of_mem_filter hdata hother)]
    exact (h.remove data.id).kept other hother
  · by_cases heq : other = data.child
    · subst heq
      rw [Function.update_self] at hoffered
      refine h.reached _ ?_
      rcases hoffered with hstate | hnext | hnegotiated | hhandlers
      · exact .inl hstate
      · exact .inr (.inl hnext)
      · exact .inr (.inr (.inl hnegotiated))
      · exact absurd rfl hhandlers
    · rw [Function.update_of_ne heq] at hoffered
      exact h.reached other hoffered
  · by_cases heq : other = data.child
    · subst heq
      simp
    · rw [Function.update_of_ne heq]
      exact h.handlers other

/-- The signals of a child are connected and the child is offered an option. -/
theorem offer (h : AttemptsKept past context pending attempts) (hdata : data ∈ pending)
    (before : State) (hbefore : before.context = context) (attempt : Nat) (option : MilterOption)
    {next : Context} (hhandlers : next.handlers = (context data.child).handlers + 1) :
    AttemptsKept
      (past ++ [.called before data.child (.ready attempt), .sent data.child (.negotiate option)])
      (Function.update context data.child next) (pending.filter (·.id != data.id)) attempts := by
  have hzero := h.unconnected data hdata
  have hunoffered : ¬Offered (context data.child) := by
    intro hoffered
    have hone := h.reached _ hoffered
    omega
  have hnone : (context data.child).handlers = 0 := by
    by_contra hsome
    exact hunoffered (.inr (.inr (.inr hsome)))
  have hconnected (other : ChildId) :
      connectedTimes (past ++ [.called before data.child (.ready attempt),
        .sent data.child (.negotiate option)]) other =
        connectedTimes past other + if other = data.child then 1 else 0 := by
    by_cases heq : other = data.child
    · simp [connectedTimes, isConnectingTo, heq]
    · simp [connectedTimes, isConnectingTo, heq, Ne.symm heq]
  have hnegotiated (other : ChildId) :
      negotiatedTimes (past ++ [.called before data.child (.ready attempt),
        .sent data.child (.negotiate option)]) other =
        negotiatedTimes past other + if other = data.child then 1 else 0 := by
    by_cases heq : other = data.child
    · simp [negotiatedTimes, isNegotiateTo, heq]
    · simp [negotiatedTimes, isNegotiateTo, heq, Ne.symm heq]
  have hremoved := h.remove data.id
  refine { hremoved with
    unconnected := fun other hother => ?_
    kept := fun other hother => ?_
    reached := fun other hoffered => ?_
    handlers := fun other => ?_
    connectedOnce := fun other => ?_
    onlyConnected := fun other => ?_
    connectedKept := fun earlier other id hmem => ?_ }
  · rw [hconnected, if_neg (h.child_ne_of_mem_filter hdata hother)]
    exact hremoved.unconnected other hother
  · rw [Function.update_of_ne (h.child_ne_of_mem_filter hdata hother)]
    exact hremoved.kept other hother
  · rw [hconnected]
    by_cases heq : other = data.child
    · rw [if_pos heq]
      omega
    · rw [Function.update_of_ne heq] at hoffered
      have hone := h.reached other hoffered
      omega
  · by_cases heq : other = data.child
    · rw [heq, Function.update_self]
      omega
    · rw [Function.update_of_ne heq]
      exact h.handlers other
  · rw [hconnected]
    have hold := h.connectedOnce other
    by_cases heq : other = data.child
    · rw [if_pos heq, heq]
      omega
    · rw [if_neg heq]
      omega
  · rw [hconnected, hnegotiated]
    have hold := h.onlyConnected other
    omega
  · rcases List.mem_append.mp hmem with hmem | hmem
    · exact h.connectedKept earlier other id hmem
    · simp only [List.mem_cons, Action.called.injEq, reduceCtorEq, List.not_mem_nil, or_false]
        at hmem
      obtain ⟨rfl, rfl, -⟩ := hmem
      rw [hbefore]
      exact h.kept data hdata

end AttemptsKept

section Steps

variable {call : Handlers} {child : ChildId} {data : NegotiateData}

theorem keeps_attempts_updateContext {f : Context → Context}
    (hhandlers : ∀ context, (f context).handlers = context.handlers)
    (hoffered : ∀ context, Offered (f context) → Offered context)
    (hquitted : ∀ context, (f context).quitted = context.quitted) :
    Proc.Keeps attemptsKept (updateContext child f) := by
  apply Proc.Keeps.update
  intro past s h
  apply AttemptsKept.set h
  · rw [hhandlers]
    exact h.handlers child
  · intro hnext
    exact h.reached child (hoffered _ hnext)
  · intro _
    exact hquitted _

theorem Follows.offered {context next : Context} (h : Follows (· ≠ .negotiate) context next)
    (hnext : Offered next) : Offered context := by
  obtain ⟨hsetup, hstate, hstanding, hqueued⟩ := h
  rcases hnext with hnegotiate | hnext | hnegotiated | hhandlers
  · rcases hstate with hsame | hother
    · exact .inl (hsame ▸ hnegotiate)
    · exact absurd hnegotiate hother
  · exact .inr (.inl (hqueued hnext))
  · rw [show next.negotiated = context.negotiated from congrArg Prod.fst hstanding] at hnegotiated
    exact .inr (.inr (.inl hnegotiated))
  · have hsame : next.handlers = context.handlers := congrArg (fun setup => setup.2.1) hsetup
    rw [hsame] at hhandlers
    exact .inr (.inr (.inr hhandlers))

theorem keeps_attempts_record {entry : State → Action} (h : ∀ s, (entry s).isOffer = false) :
    Proc.Keeps attemptsKept (Proc.record entry) :=
  Proc.Keeps.record fun _ s hkept => hkept.append (h s)

/-- The parts of the invariant that the handlers of the attempts have no share in. -/
theorem attempts_connection (hcalled : ∀ child callback, isReady callback = false →
      isDirect callback → Proc.Keeps attemptsKept (call child callback))
    (hentered : ∀ child callback, isReady callback = false →
      Proc.Keeps attemptsKept (enter call child callback)) :
    ConnectionKeeps (.keeps attemptsKept) call (· ≠ .negotiate)
      fun callback => isReady callback = false where
  context child f hf := by
    apply keeps_attempts_updateContext
    · exact fun context => congrArg (fun setup => setup.2.1) (hf context).1
    · exact fun context => (hf context).offered
    · exact fun context => congrArg Prod.snd (hf context).2.2.1
  sent child packet hpacket := by
    apply keeps_attempts_record
    intro s
    cases packet with
    | negotiate option => exact absurd rfl (hpacket option)
    | _ => rfl
  called child callback hready hdirect := hcalled child callback hready hdirect
  entered := hentered
  error _ _ := rfl
  connectionError _ _ _ := rfl

theorem attempts_object (hcalled : ∀ child callback, isReady callback = false → isDirect callback →
      Proc.Keeps attemptsKept (call child callback))
    (hentered : ∀ child callback, isReady callback = false →
      Proc.Keeps attemptsKept (enter call child callback)) :
    ObjectKeeps (.keeps attemptsKept) call (· ≠ .negotiate) := by
  refine ObjectKeeps.of_invariant (attempts_connection hcalled hentered) (fun f hf => ?_) ?_ ?_
  · apply Proc.Keeps.update
    intro past s h
    have hcontext : (f s).context = s.context := congrArg Prod.fst (hf s)
    have hpending : (f s).tryNegotiateIds = s.tryNegotiateIds :=
      congrArg (fun connections => connections.2.1) (hf s)
    have hattempts : (f s).attempts = s.attempts :=
      congrArg (fun connections => connections.2.2) (hf s)
    unfold attemptsKept
    rw [hcontext, hpending, hattempts]
    exact h
  · exact fun entry hentry => keeps_attempts_record fun s => Action.isOffer_of_isOwn (hentry s)
  · intro state hstate heq
    rw [heq] at hstate
    cases hstate

/-- The invariant, for a child that was connected. -/
def keptConnected (child : ChildId) (past : List Action) (s : State) : Prop :=
  attemptsKept past s ∧ 1 ≤ connectedTimes past child

/-- The data of a child that was connected may change in any way but for its handlers. -/
theorem keptConnected_updateContext {f : Context → Context}
    (hhandlers : ∀ context, (f context).handlers ≤ context.handlers) :
    Proc.Keeps (keptConnected child) (updateContext child f) := by
  apply Proc.Keeps.update
  rintro past s ⟨h, hconnected⟩
  refine ⟨AttemptsKept.set h ?_ (fun _ => hconnected) fun hzero => ?_, hconnected⟩
  · exact Nat.le_trans (hhandlers _) (h.handlers child)
  · omega

theorem keptConnected_object (h : ObjectKeeps (.keeps attemptsKept) call (· ≠ .negotiate)) :
    ObjectKeeps (.keeps (keptConnected child)) call (· ≠ .negotiate) :=
  h.and_past (connectedTimes_append child)

theorem keptConnected_quit : Proc.Keeps (keptConnected child)
    (updateContext child fun context => { context with quitted := true }) :=
  keptConnected_updateContext fun _ => Nat.le_refl _

theorem keptConnected_expireChild : Proc.Keeps (keptConnected child) (expireChild child) :=
  keptConnected_updateContext fun _ => Nat.zero_le _

/-- What keeps the invariant for a child that was connected keeps it once the child shows an
offer. -/
theorem keeps_of_keptConnected {m : Program PUnit} (hm : Proc.Keeps (keptConnected child) m)
    {past : List Action} {s : State} (h : attemptsKept past s)
    (hoffered : Offered (s.context child)) :
    attemptsKept (past ++ (m s).trace) (m s).state :=
  (hm past s ⟨h, h.reached child hoffered⟩).1

/-- Only children that negotiated are dropped for the fallback status. -/
theorem keeps_attempts_checkFallback : Proc.Keeps attemptsKept checkFallbackStatusOnNegotiate := by
  unfold checkFallbackStatusOnNegotiate
  refine Proc.Keeps.getState.bind fun s => ?_
  split
  case h_4 => exact Proc.Keeps.pure _
  all_goals
    apply Proc.Keeps.each
    intro other _ past t h
    rw [contextOf_bind]
    by_cases hnegotiated : (t.context other).negotiated
    · rw [if_pos hnegotiated]
      refine keeps_of_keptConnected ?_ h (.inr (.inr (.inl hnegotiated)))
      exact Proc.Keeps.bind (Proc.Keeps.update fun past s h => h) fun _ => keptConnected_expireChild
    · rw [if_neg hnegotiated]
      simpa using h

/-- The invariant, for an attempt that is under way. -/
def keptPending (data : NegotiateData) (past : List Action) (s : State) : Prop :=
  attemptsKept past s ∧ data ∈ s.tryNegotiateIds

/-- The invariant that is left once an attempt is removed. -/
def keptWithout (attempt : Nat) (past : List Action) (s : State) : Prop :=
  AttemptsKept past s.context (s.tryNegotiateIds.filter (·.id != attempt)) s.attempts

/-- A handler that is not entered. -/
def silent : Handlers := fun _ _ => pure ⟨⟩

theorem attempts_silent : ObjectKeeps (.keeps attemptsKept) silent (· ≠ .negotiate) := by
  refine attempts_object (fun _ _ _ _ => Proc.Keeps.pure _) fun _ _ _ => ?_
  exact @ConnectionKeeps.of_enter (.keeps attemptsKept) _ _ _ (Proc.Keeps.pure _)

/-- Only the functions of the negotiation change the attempts. -/
theorem pending_silent :
    ObjectKeeps (.keeps (fun _ s => data ∈ s.tryNegotiateIds)) silent fun _ => True := by
  have hconnection : ConnectionKeeps (.keeps (fun _ s => data ∈ s.tryNegotiateIds)) silent
      (fun _ => True) fun callback => isReady callback = false :=
    { context := fun _ _ _ => Proc.Keeps.update fun _ _ h => h
      sent := fun _ _ _ => Proc.Keeps.record fun _ _ h => h
      called := fun _ _ _ _ => Proc.Keeps.pure _
      entered := fun _ _ _ => ConnectionKeeps.of_enter (Proc.Keeps.pure _)
      error := fun _ _ => rfl
      connectionError := fun _ _ _ => rfl }
  refine ObjectKeeps.of_invariant hconnection (fun f hf => Proc.Keeps.update fun _ s h => ?_)
    (fun _ _ => Proc.Keeps.record fun _ _ h => h) fun _ _ => trivial
  rw [show (f s).tryNegotiateIds = s.tryNegotiateIds from
    congrArg (fun connections => connections.2.1) (hf s)]
  exact h

theorem pending_checkFallback :
    Proc.Keeps (fun _ s => data ∈ s.tryNegotiateIds) checkFallbackStatusOnNegotiate := by
  unfold checkFallbackStatusOnNegotiate
  refine Proc.Keeps.getState.bind fun s => ?_
  split
  case h_4 => exact Proc.Keeps.pure _
  all_goals
    refine Proc.Keeps.each _ fun other _ => (keeps_contextOf _).bind fun context => ?_
    refine Proc.Keeps.ite ?_ (Proc.Keeps.pure _)
    exact Proc.Keeps.bind (Proc.Keeps.update fun _ _ h => h) fun _ =>
      Proc.Keeps.update fun _ _ h => h

theorem keptPending_removeQueueInNegotiate :
    Proc.Keeps (keptPending data) (removeQueueInNegotiate child) := by
  rintro past s ⟨h, hmem⟩
  exact ⟨attempts_silent.of_removeQueueInNegotiate keeps_attempts_checkFallback past s h,
    pending_silent.of_removeQueueInNegotiate pending_checkFallback past s hmem⟩

theorem keptPending_emitSignal {signal : Signal} :
    Proc.Keeps (keptPending data) (emitSignal signal) := by
  rintro past s ⟨h, hmem⟩
  exact ⟨keeps_attempts_record (fun _ => rfl) past s h, hmem⟩

theorem keptPending_startChild : Proc.Keeps (keptPending data) (startChild child) := by
  rintro past s ⟨h, hmem⟩
  exact ⟨attempts_silent.of_startChild past s h, pending_silent.of_startChild past s hmem⟩

theorem triple_expireChild_pending :
    Proc.Triple (keptPending data) (expireChild data.child) fun _ => keptWithout data.id := by
  apply Proc.Triple.update
  rintro past s ⟨h, hmem⟩
  exact h.drop hmem

theorem triple_addAttempt_pending {option : Nat} {isRetry retryTimer : Bool} :
    Proc.Triple (keptPending data) (addAttempt data.child option isRetry retryTimer)
      fun _ => keptWithout data.id := by
  apply Proc.Triple.update
  rintro past s ⟨h, hmem⟩
  exact h.replace hmem option isRetry retryTimer

theorem triple_removeAttempt {attempt : Nat} :
    Proc.Triple (keptWithout attempt) (removeAttempt attempt) fun _ => attemptsKept :=
  Proc.Triple.update fun _ _ h => h

theorem triple_clear_pending :
    Proc.Triple (keptPending data) (clearTryNegotiateData data) fun _ => attemptsKept := by
  refine Proc.Triple.after keptPending_removeQueueInNegotiate fun _ => ?_
  exact Proc.Triple.bind _ triple_expireChild_pending fun _ => triple_removeAttempt

theorem triple_retryOrClear_pending {domain : ErrorDomain} :
    Proc.Triple (keptPending data) (retryOrClear data domain) fun _ => attemptsKept := by
  unfold retryOrClear
  refine Proc.Triple.after Proc.Keeps.getState fun s => ?_
  refine Proc.Triple.ite (fun _ => ?_) fun _ => ?_
  · exact Proc.Triple.after keptPending_emitSignal fun _ => triple_clear_pending
  refine Proc.Triple.ite (fun _ => triple_clear_pending) fun _ => ?_
  refine Proc.Triple.after keptPending_startChild fun started => ?_
  refine Proc.Triple.ite (fun _ => triple_clear_pending) fun _ => ?_
  exact Proc.Triple.bind _ triple_addAttempt_pending fun _ => triple_removeAttempt

/-- A handler of an attempt does nothing once the attempt is removed. -/
theorem keeps_attempts_withAttempt {attempt : Nat} {handle : NegotiateData → Program PUnit}
    (h : ∀ data, Proc.Triple (keptPending data) (handle data) fun _ => attemptsKept) :
    Proc.Keeps attemptsKept (withAttempt attempt handle) := by
  intro past s hkept
  rw [withAttempt_apply]
  cases hattempt : s.attempt attempt with
  | none => simpa using hkept
  | some data => exact h data past s ⟨hkept, List.mem_of_find?_eq_some hattempt⟩

theorem keeps_attempts_establishConnection {established : Bool} :
    Proc.Keeps attemptsKept (establishConnection child established) := by
  unfold establishConnection
  exact keeps_attempts_updateContext (fun _ => rfl) (fun _ h => h) fun _ => rfl

theorem triple_childEstablishConnection_pending {option : Nat} {established : Bool} :
    Proc.Triple (keptPending data) (childEstablishConnection data.child option true established)
      fun _ => keptWithout data.id := by
  unfold childEstablishConnection
  refine Proc.Triple.after ?_ fun _ => Proc.Triple.ite (fun _ => ?_) fun _ => ?_
  · rintro past s ⟨h, hmem⟩
    exact ⟨keeps_attempts_establishConnection past s h, hmem⟩
  · refine Proc.Triple.after keptPending_emitSignal fun _ => ?_
    refine Proc.Triple.bind (fun _ => keptWithout data.id) ?_ fun _ =>
      Proc.Triple.pure fun _ _ h => h
    rw [if_pos rfl]
    refine Proc.Triple.after ?_ fun _ => Proc.Triple.after keptPending_removeQueueInNegotiate
      fun _ => triple_expireChild_pending
    rintro past s ⟨h, hmem⟩
    exact ⟨keeps_attempts_record (fun _ => rfl) past s h, hmem⟩
  · exact Proc.Triple.bind _ triple_addAttempt_pending fun _ => Proc.Triple.pure fun _ _ h => h

theorem keeps_attempts_retry {attempt : Nat} {established : Bool} :
    Proc.Keeps attemptsKept (retryEstablishConnection attempt established) := by
  refine keeps_attempts_withAttempt fun data => Proc.Triple.ite (fun _ => ?_) fun _ => ?_
  · exact Proc.Triple.bind _ triple_childEstablishConnection_pending fun _ => triple_removeAttempt
  · exact Proc.Triple.pure fun _ _ h => h.1

/-- The handlers of the attempts and of the signals of the children, but for `cb_ready`. -/
theorem attempts_dispatch (depth : Nat) :
    ObjectKeeps (.keeps attemptsKept) (dispatch depth) (· ≠ .negotiate) := by
  induction depth with
  | zero => exact attempts_silent
  | succ depth ih =>
      have hrecord {child : ChildId} {callback : Callback} (hready : isReady callback = false) :
          Proc.Keeps attemptsKept (Proc.record fun s => Action.called s child callback) := by
        apply keeps_attempts_record
        intro s
        cases callback <;> first | rfl | cases hready
      have hcalled (child : ChildId) (callback : Callback) (hready : isReady callback = false)
          (hdirect : isDirect callback) :
          Proc.Keeps attemptsKept (dispatch (depth + 1) child callback) := by
        refine Proc.Keeps.bind (hrecord hready) fun _ => ?_
        cases callback with
        | «continue» => exact ih.of_cbContinue
        | connectionTimeout attempt =>
            exact keeps_attempts_withAttempt fun _ => triple_clear_pending
        | connectionError attempt domain =>
            exact keeps_attempts_withAttempt fun _ => triple_retryOrClear_pending
        | ready attempt => cases hready
        | _ => cases hdirect
      refine attempts_object hcalled fun child callback hready => ?_
      by_cases hdirect : isDirect callback
      · refine @ConnectionKeeps.of_enter (.keeps attemptsKept) _ _ _ ?_
        exact hcalled child callback hready hdirect
      intro past s h
      unfold enter
      rw [contextOf_bind]
      by_cases hhandlers : (s.context child).handlers = 0
      · rw [if_pos hhandlers]
        simpa using h
      rw [if_neg hhandlers]
      refine @keeps_of_keptConnected child _ ?_ past s h (.inr (.inr (.inr hhandlers)))
      refine Proc.Keeps.bind ((hrecord hready).and_past (connectedTimes_append child)) fun _ => ?_
      apply (keptConnected_object ih).of_handle keptConnected_quit keptConnected_expireChild
      · exact keeps_attempts_checkFallback.and_past (connectedTimes_append child)
      · exact .inl (Bool.eq_false_iff.mpr hdirect)

/-- The data of a child that was written the option. -/
def offeredOption (context : Context) (option : MilterOption) : Context :=
  { context with
    handlers := context.handlers + 1
    option := some option
    timeout := some .writing
    nextStates := context.nextStates ++ [.negotiate] }

/-- A child that is told of its connection, with a writer and no timeout, is written the
option. -/
theorem cbReady_apply {s : State} {attempt : Nat} (hattempt : s.attempt attempt = some data)
    (htimeout : (s.context data.child).timeout = none)
    (hwriter : (s.context data.child).writer = .started) :
    cbReady call attempt s =
      ⟨⟨⟩, { s with
          context := Function.update s.context data.child
            (offeredOption (s.context data.child) (optionContent s data.option))
          tryNegotiateIds := s.tryNegotiateIds.filter (·.id != data.id) },
        [.sent data.child (.negotiate (optionContent s data.option))]⟩ := by
  have hinterrupts : ContextState.negotiate.interrupts = false := rfl
  unfold cbReady
  rw [withAttempt_apply, hattempt]
  simp [offerOption, serverNegotiate, writePacket, writePacketNow, updateContext, contextOf,
    registerTimeout, removeAttempt, Context.isProcessing, Proc.when, offeredOption, optionContent,
    hinterrupts, htimeout, hwriter]

/-- A child whose connection was just established. -/
def isConnected (child : ChildId) (s : State) : Prop :=
  (s.context child).timeout = none ∧ (s.context child).writer = .started

theorem triple_ready (depth : Nat) :
    Proc.Triple (fun past s => keptPending data past s ∧ isConnected data.child s)
      (dispatch depth data.child (.ready data.id)) fun _ => attemptsKept := by
  cases depth with
  | zero => exact Proc.Triple.pure fun _ _ h => h.1.1
  | succ depth =>
      rintro past s ⟨⟨h, hmem⟩, htimeout, hwriter⟩
      have hattempt : s.attempt data.id = some data := by
        cases hfind : s.attempt data.id with
        | none =>
            have hid := List.find?_eq_none.mp hfind data hmem
            simp at hid
        | some other =>
            have hid : other.id = data.id := by simpa using List.find?_some hfind
            rw [h.eq_of_id hmem (List.mem_of_find?_eq_some hfind) hid]
      have hready : dispatch (depth + 1) data.child (.ready data.id) s =
          ⟨⟨⟩, (cbReady (dispatch depth) data.id s).state,
            .called s data.child (.ready data.id) :: (cbReady (dispatch depth) data.id s).trace⟩ :=
        rfl
      rw [hready, cbReady_apply hattempt htimeout hwriter]
      exact h.offer hmem s rfl data.id _ rfl

/-- At most one attempt is told that its child is ready. -/
theorem triple_emitOnAttempts_ready (depth : Nat) :
    Proc.Triple (fun past s => attemptsKept past s ∧ isConnected child s)
      (emitOnAttempts (dispatch depth) child .ready) fun _ => attemptsKept := by
  unfold emitOnAttempts
  refine Proc.Triple.getState fun s => ?_
  cases hpending : s.tryNegotiateIds.filter (·.child == child) with
  | nil => exact Proc.Triple.pure fun _ _ h => h.1.1
  | cons data rest =>
      have hdata : data ∈ s.tryNegotiateIds.filter (·.child == child) := by simp [hpending]
      obtain ⟨hmem, hchild⟩ := List.mem_filter.mp hdata
      rw [beq_iff_eq] at hchild
      rintro past t ⟨⟨h, hconnected⟩, rfl⟩
      have hrest : rest = [] := by
        cases rest with
        | nil => rfl
        | cons other rest =>
            have hother : other ∈ t.tryNegotiateIds.filter (·.child == child) := by simp [hpending]
            obtain ⟨hmemother, hchildother⟩ := List.mem_filter.mp hother
            have hsame := h.eq_of_child hmem hmemother (by simpa [hchild] using hchildother)
            have hnodup : ((data :: other :: rest).map (·.id)).Nodup := by
              rw [← hpending]
              exact h.ids.sublist (List.filter_sublist.map _)
            simp [hsame] at hnodup
      have hany : ∃ other, other ∈ t.tryNegotiateIds ∧ other.id = data.id := ⟨data, hmem, rfl⟩
      subst hrest
      subst hchild
      have hstep := triple_ready depth past t ⟨⟨h, hmem⟩, hconnected⟩
      simpa [hany] using hstep

theorem keeps_attempts_connectWatch (depth : Nat) {established : Bool} :
    Proc.Keeps attemptsKept (connectWatch (dispatch depth) child established) := by
  have hobject := attempts_dispatch depth
  unfold connectWatch
  refine (keeps_contextOf _).bind fun context => Proc.Keeps.ite ?_ (Proc.Keeps.pure _)
  refine Proc.Triple.bind (fun _ past s => attemptsKept past s ∧ (s.context child).timeout = none)
    ?_ fun _ => Proc.Triple.ite (fun _ => ?_) fun _ => ?_
  · apply Proc.Triple.update
    intro past s h
    refine ⟨AttemptsKept.set h (h.handlers child) (fun hoffered => ?_) fun _ => rfl, by simp⟩
    exact h.reached child hoffered
  · refine Proc.Triple.bind _ ?_ fun _ => triple_emitOnAttempts_ready depth
    apply Proc.Triple.update
    rintro past s ⟨h, htimeout⟩
    refine ⟨AttemptsKept.set h (h.handlers child) (fun hoffered => ?_) fun _ => rfl, ?_⟩
    · exact h.reached child hoffered
    · simp [isConnected, htimeout]
  · have herror : Proc.Keeps attemptsKept (emitErrorOn (dispatch depth) child .serverContext) :=
      hobject.of_emitErrorOn (by decide)
    exact herror.weaken fun _ _ h => h.1

theorem keptConnected_processNextState (h : ObjectKeeps (.keeps attemptsKept) call (· ≠ .negotiate))
    {shutdown : Program PUnit} (hshutdown : Proc.Keeps attemptsKept shutdown)
    (state : ContextState) :
    Proc.Keeps (keptConnected child) (processNextState shutdown call child state) := by
  by_cases hstate : state = .negotiate
  · subst hstate
    have hupdate {f : Context → Context} (hf : ∀ context, (f context).handlers = context.handlers) :
        Proc.Keeps (keptConnected child) (updateContext child f) :=
      keptConnected_updateContext fun context => Nat.le_of_eq (hf context)
    refine Proc.Keeps.bind (hupdate fun _ => rfl) fun _ => ?_
    refine Proc.Keeps.bind (Proc.Keeps.when fun _ => hupdate fun _ => rfl) fun _ => ?_
    refine Proc.Keeps.bind (hupdate fun _ => rfl) fun _ => ?_
    refine (keeps_contextOf _).bind fun context => ?_
    exact Proc.Keeps.ite (hupdate fun _ => rfl) (Proc.Keeps.pure _)
  · exact (keptConnected_object h).of_processNextState
      (hshutdown.and_past (connectedTimes_append child)) hstate

/-- Only a child that was offered an option takes the state of the negotiation. -/
theorem keeps_attempts_processNextStates
    (h : ObjectKeeps (.keeps attemptsKept) call (· ≠ .negotiate))
    {shutdown : Program PUnit} (hshutdown : Proc.Keeps attemptsKept shutdown) :
    Proc.Keeps attemptsKept (processNextStates shutdown call child) := by
  intro past s hkept
  unfold processNextStates
  rw [contextOf_bind]
  by_cases hqueued : .negotiate ∈ (s.context child).nextStates
  · refine keeps_of_keptConnected ?_ hkept (.inr (.inl hqueued))
    refine Proc.Keeps.bind (keptConnected_updateContext fun _ => Nat.le_refl _) fun _ => ?_
    exact Proc.Keeps.each _ fun state _ => keptConnected_processNextState h hshutdown state
  · refine Proc.Keeps.bind (f := _) ?_
      (fun _ => Proc.Keeps.each _ fun state hmem => ?_) past s hkept
    · exact h.context child _ fun _ => ⟨rfl, .inl rfl, rfl, by simp⟩
    · exact h.of_processNextState hshutdown fun heq => hqueued (heq ▸ hmem)

theorem keeps_attempts_flushed (h : ObjectKeeps (.keeps attemptsKept) call (· ≠ .negotiate)) :
    Proc.Keeps attemptsKept (flushed call child) := by
  have hnext := @keeps_attempts_processNextStates call child h _ (Proc.Keeps.pure ⟨⟩)
  refine (keeps_contextOf child).bind fun context => Proc.Keeps.ite ?_ (Proc.Keeps.pure _)
  exact keeps_attempts_processNextStates h (h.of_agentShutdown rfl hnext)

theorem keeps_attempts_option {option : MilterOption} : Proc.Keeps attemptsKept
    (updateContext child fun context => { context with option := some option }) :=
  keeps_attempts_updateContext (fun _ => rfl) (fun _ h => h) fun _ => rfl

theorem keeps_attempts_decoderNegotiateReply
    (h : ObjectKeeps (.keeps attemptsKept) call (· ≠ .negotiate)) {option : MilterOption} :
    Proc.Keeps attemptsKept (decoderNegotiateReply call child option) := by
  intro past s hkept
  by_cases hstate : (s.context child).state = .negotiate
  · refine keeps_of_keptConnected ?_ hkept (.inl hstate)
    refine (keptConnected_object h).of_decoderNegotiateReply (fun _ _ _ => ?_) ?_ rfl
    · exact keptConnected_updateContext fun _ => Nat.le_refl _
    · exact keptConnected_updateContext fun _ => Nat.le_refl _
  · unfold decoderNegotiateReply
    rw [contextOf_bind, if_neg hstate]
    refine (h.of_disableTimeout.bind fun _ => ?_) past s hkept
    split
    · exact h.of_emitErrorOn (by decide)
    · exact keeps_attempts_option.bind fun _ => h.of_emitErrorOn (by decide)

theorem keeps_attempts_childrenQuit (h : ObjectKeeps (.keeps attemptsKept) call (· ≠ .negotiate)) :
    Proc.Keeps attemptsKept (childrenQuit call) := by
  unfold childrenQuit
  refine Proc.Keeps.bind (h.update _ ⟨fun _ => rfl, fun _ => rfl, fun _ _ => rfl⟩) fun _ => ?_
  refine Proc.Keeps.getState.bind fun s => ?_
  refine Proc.Keeps.bind (Proc.Keeps.each _ fun child _ => ?_) fun _ => ?_
  · intro past t hkept
    rw [contextOf_bind]
    by_cases hquits : !(t.context child).isQuitted ∧ (t.context child).state ≠ .quit
    · rw [if_pos hquits]
      have hnegotiated : (t.context child).negotiated = true := by
        by_contra hnone
        simp [Context.isQuitted, hnone] at hquits
      refine keeps_of_keptConnected ?_ hkept (.inr (.inr (.inl hnegotiated)))
      exact ((keptConnected_object h).of_serverQuit keptConnected_quit).bind fun _ =>
        Proc.Keeps.pure _
    · rw [if_neg hquits]
      simpa using hkept
  · refine Proc.Keeps.getState.bind fun s => Proc.Keeps.ite ?_ (Proc.Keeps.pure _)
    refine (h.of_emitSignal rfl).bind fun _ => ?_
    exact h.update _ ⟨fun _ => rfl, fun _ => rfl, fun _ _ => rfl⟩

/-- The MTA begins a negotiation. -/
def beginsNegotiation : Event → Bool
  | .negotiate _ _ => true
  | _ => false

/-- Every event but a new negotiation keeps the invariant. -/
theorem keeps_attempts_perform (depth : Nat) {event : Event}
    (hevent : beginsNegotiation event = false) :
    Proc.Keeps attemptsKept (perform (dispatch depth) event) := by
  have h := attempts_dispatch depth
  have hnext {child : ChildId} :
      Proc.Keeps attemptsKept (processNextStates (pure ⟨⟩) (dispatch depth) child) :=
    keeps_attempts_processNextStates h (Proc.Keeps.pure _)
  cases event with
  | negotiate => cases hevent
  | quit => exact keeps_attempts_childrenQuit h
  | idle =>
      refine Proc.Keeps.getState.bind fun s => Proc.Keeps.ite ?_ (Proc.Keeps.pure _)
      refine Proc.Keeps.bind (h.update _ ⟨fun _ => rfl, fun _ => rfl, fun _ _ => rfl⟩) fun _ => ?_
      exact h.of_replyNegotiate keeps_attempts_checkFallback
  | retry => exact keeps_attempts_retry
  | connected => exact keeps_attempts_connectWatch depth
  | flushed => exact keeps_attempts_flushed h
  | timeout => exact h.of_expireTimeout rfl hnext (fun _ => rfl) rfl rfl rfl
  | reply child reply =>
      refine @ConnectionKeeps.of_receive (.keeps attemptsKept) _ _ _ ?_
      by_cases hnegotiate : ∃ option, reply = .negotiateReply option
      · obtain ⟨option, rfl⟩ := hnegotiate
        exact keeps_attempts_decoderNegotiateReply h
      · refine h.of_decode ?_ (by decide) fun option heq => hnegotiate ⟨option, heq⟩
        cases reply <;> rfl
  | hangUp => exact h.of_hangUp rfl hnext
  | failWriter => exact h.of_failWriter
  | setChunkSize => exact h.update _ ⟨fun _ => rfl, fun _ => rfl, fun _ _ => rfl⟩
  | fail => exact h.of_failConnection
  | stopOn => exact keeps_attempts_updateContext (fun _ => rfl) (fun _ h => h) fun _ => rfl
  | _ =>
      refine h.of_perform (fun state hsent heq => ?_) rfl
      rw [heq] at hsent
      cases hsent

end Steps

section Negotiate

variable {established : ChildId → Bool}

/-- How many attempts `milter_manager_children_negotiate` begins for a child. -/
def attemptsMade (s : State) (established : ChildId → Bool) (child : ChildId) : Nat :=
  if !established child ∧ s.privilegeMode ∧ s.launcher = .working ∧
    (s.context child).hasCommand then
    2
  else 1

/-- What `milter_manager_children_negotiate` does for each child. -/
def beginAttempts (privilegeMode : Bool) (option : Nat) (established : ChildId → Bool)
    (child : ChildId) : Program PUnit := do
  if !(← childEstablishConnection child option false (established child)) then
    if privilegeMode then
      if ← startChild child then prepareRetryEstablishConnection child option false

/-- The attempts begun for a child. -/
def newAttempts (s : State) (option : Nat) (established : ChildId → Bool) (child : ChildId) :
    List NegotiateData :=
  if established child then [⟨s.attempts, child, option, false, false⟩]
  else if attemptsMade s established child = 2 then
    [⟨s.attempts, child, option, true, true⟩, ⟨s.attempts + 1, child, option, false, true⟩]
  else [⟨s.attempts, child, option, true, true⟩]

theorem beginAttempts_state (option : Nat) (child : ChildId) (s : State) :
    (beginAttempts s.privilegeMode option established child s).state =
      { s with
        context := Function.update s.context child
          { s.context child with
            timeout := if established child then some .connection else none
            connecting := established child }
        attempts := s.attempts + attemptsMade s established child
        tryNegotiateIds := s.tryNegotiateIds ++ newAttempts s option established child } := by
  cases hestablished : established child <;> cases hprivilege : s.privilegeMode <;>
    cases hlauncher : s.launcher <;> cases hcommand : (s.context child).hasCommand <;>
    simp [beginAttempts, childEstablishConnection, establishConnection, prepareNegotiate,
      prepareRetryEstablishConnection, startChild, addAttempt, updateContext, emitSignal,
      attemptsMade, newAttempts, hestablished, hprivilege, hlauncher, hcommand]

theorem beginAttempts_trace (option : Nat) (child : ChildId) (s : State) :
    ∀ action ∈ (beginAttempts s.privilegeMode option established child s).trace,
      action.isOffer = false := by
  cases hestablished : established child <;> cases hprivilege : s.privilegeMode <;>
    cases hlauncher : s.launcher <;> cases hcommand : (s.context child).hasCommand <;>
    simp [beginAttempts, childEstablishConnection, establishConnection, prepareNegotiate,
      prepareRetryEstablishConnection, startChild, addAttempt, updateContext, emitSignal,
      Action.isOffer, hestablished, hprivilege, hlauncher, hcommand]

theorem newAttempts_children (s : State) (option : Nat) (child : ChildId) :
    (newAttempts s option established child).map (·.child) =
      List.replicate (attemptsMade s established child) child := by
  unfold newAttempts
  by_cases hestablished : established child
  · simp [attemptsMade, hestablished]
  · rw [if_neg hestablished]
    by_cases htwice : attemptsMade s established child = 2
    · simp [htwice]
    · have hone : attemptsMade s established child = 1 := by
        unfold attemptsMade at htwice ⊢
        split
        · next hmet => exact absurd (if_pos hmet) htwice
        · rfl
      simp [hone]

/-- The attempts for a child depend on nothing that beginning those for another one changes. -/
theorem attemptsMade_beginAttempts (option : Nat) (child other : ChildId) (s : State) :
    attemptsMade (beginAttempts s.privilegeMode option established child s).state established
        other =
      attemptsMade s established other := by
  rw [beginAttempts_state]
  unfold attemptsMade
  by_cases heq : other = child
  · subst heq
    simp
  · simp [Function.update_of_ne heq]

theorem privilegeMode_beginAttempts (option : Nat) (child : ChildId) (s : State) :
    (beginAttempts s.privilegeMode option established child s).state.privilegeMode =
      s.privilegeMode := by
  rw [beginAttempts_state]

theorem each_beginAttempts_children (option : Nat) (children : List ChildId) (s : State) :
    ((Proc.each (beginAttempts s.privilegeMode option established) children
        s).state.tryNegotiateIds.map (·.child)) =
      s.tryNegotiateIds.map (·.child) ++
        children.flatMap fun child =>
          List.replicate (attemptsMade s established child) child := by
  induction children generalizing s with
  | nil => simp
  | cons child rest ih =>
      have hmode := @privilegeMode_beginAttempts established option child s
      have hrest := ih (beginAttempts s.privilegeMode option established child s).state
      rw [hmode] at hrest
      have hpending : ((beginAttempts s.privilegeMode option established child
          s).state.tryNegotiateIds.map (·.child)) =
          s.tryNegotiateIds.map (·.child) ++
            List.replicate (attemptsMade s established child) child := by
        rw [beginAttempts_state, List.map_append, newAttempts_children]
      rw [Proc.each_cons, Proc.bind_apply]
      simp only [hrest, hpending, attemptsMade_beginAttempts, List.flatMap_cons, List.append_assoc]

theorem AttemptsKept.append_all {past : List Action} {context : ChildId → Context}
    {pending : List NegotiateData} {attempts : Nat}
    (h : AttemptsKept past context pending attempts) {back : List Action}
    (hback : ∀ action ∈ back, action.isOffer = false) :
    AttemptsKept (past ++ back) context pending attempts := by
  induction back generalizing past with
  | nil => simpa using h
  | cons action back ih =>
      have hsplit : past ++ action :: back = past ++ [action] ++ back := by simp
      rw [hsplit]
      apply ih (h.append (hback action (List.mem_cons_self ..)))
      exact fun other hother => hback other (List.mem_cons_of_mem _ hother)

theorem connectedTimes_append_all {back : List Action}
    (hback : ∀ action ∈ back, action.isOffer = false) (past : List Action) (child : ChildId) :
    connectedTimes (past ++ back) child = connectedTimes past child := by
  unfold connectedTimes
  have hnone : back.countP (isConnectingTo child) = 0 := by
    rw [List.countP_eq_zero]
    intro action hmem
    simp [isConnectingTo_of_not_isOffer (hback action hmem)]
  rw [List.countP_append, hnone, Nat.add_zero]

/-- The invariant while the attempts of the children in `rest` are still to begin. -/
structure AttemptsBegun (rest : List ChildId) (past : List Action) (s : State) : Prop where
  kept : attemptsKept past s
  absent : ∀ data ∈ s.tryNegotiateIds, data.child ∉ rest
  unconnected : ∀ child ∈ rest, connectedTimes past child = 0
  unquitted : ∀ child ∈ rest, (s.context child).quitted = false

theorem newAttempts_of_once {s : State} {child : ChildId} (option : Nat)
    (hone : attemptsMade s established child = 1) :
    ∃ isRetry retryTimer, newAttempts s option established child =
      [⟨s.attempts, child, option, isRetry, retryTimer⟩] := by
  unfold newAttempts
  by_cases hestablished : established child
  · exact ⟨false, false, if_pos hestablished⟩
  · refine ⟨true, true, ?_⟩
    rw [if_neg hestablished, if_neg (by omega)]

theorem AttemptsBegun.next {rest : List ChildId} {child : ChildId} {past : List Action} {s : State}
    (h : AttemptsBegun (child :: rest) past s) (hnew : child ∉ rest) (option : Nat)
    (hone : attemptsMade s established child = 1) :
    AttemptsBegun rest
      (past ++ (beginAttempts s.privilegeMode option established child s).trace)
      (beginAttempts s.privilegeMode option established child s).state := by
  obtain ⟨isRetry, retryTimer, hattempts⟩ := newAttempts_of_once option hone
  have htrace := @beginAttempts_trace established option child s
  have hfirst : child ∈ child :: rest := List.mem_cons_self ..
  rw [beginAttempts_state, hone, hattempts]
  refine ⟨?_, ?_, ?_, ?_⟩
  · have hquiet := h.kept.append_all htrace
    have hset := @AttemptsKept.set _ _ _ _ child hquiet
      { s.context child with
        timeout := if established child then some .connection else none
        connecting := established child }
      (h.kept.handlers child) (fun hoffered => hquiet.reached child hoffered) fun _ => rfl
    apply hset.add
    · intro data hdata heq
      exact h.absent data hdata (heq ▸ hfirst)
    · rw [connectedTimes_append_all htrace]
      exact h.unconnected child hfirst
    · rw [Function.update_self]
      exact h.unquitted child hfirst
  · intro data hdata hrest
    rcases List.mem_append.mp hdata with hold | hadded
    · exact h.absent data hold (List.mem_cons_of_mem _ hrest)
    · rw [List.mem_singleton.mp hadded] at hrest
      exact hnew hrest
  · intro other hother
    rw [connectedTimes_append_all htrace]
    exact h.unconnected other (List.mem_cons_of_mem _ hother)
  · intro other hother
    have hne : other ≠ child := fun heq => hnew (heq ▸ hother)
    dsimp only
    rw [Function.update_of_ne hne]
    exact h.unquitted other (List.mem_cons_of_mem _ hother)

theorem attemptsKept_each_beginAttempts (option : Nat) {children : List ChildId}
    (hnodup : children.Nodup) {past : List Action} {s : State}
    (hone : ∀ child ∈ children, attemptsMade s established child = 1)
    (h : AttemptsBegun children past s) :
    attemptsKept
      (past ++ (Proc.each (beginAttempts s.privilegeMode option established) children s).trace)
      (Proc.each (beginAttempts s.privilegeMode option established) children s).state := by
  induction children generalizing past s with
  | nil => simpa using h.kept
  | cons child rest ih =>
      obtain ⟨hnew, hrest⟩ := List.nodup_cons.mp hnodup
      have hnext := h.next hnew option (hone child (List.mem_cons_self ..))
      have hkept := ih hrest (fun other hother => ?_) hnext
      · rw [privilegeMode_beginAttempts, List.append_assoc] at hkept
        exact hkept
      · rw [attemptsMade_beginAttempts]
        exact hone other (List.mem_cons_of_mem _ hother)

/-- Before the attempts begin nothing about the connections changes. -/
theorem childrenNegotiate_apply (offered : MilterOption) (s : State) :
    ∃ (s' : State) (option : Nat), s'.connections = s.connections ∧
      s'.privilegeMode = s.privilegeMode ∧ s'.launcher = s.launcher ∧
      childrenNegotiate offered established s =
        Proc.each (beginAttempts s'.privilegeMode option established) s.milters s' := by
  by_cases hmilters : s.milters = []
  · refine ⟨(childrenNegotiate offered established s).state, 0, ?_, ?_, ?_, ?_⟩ <;>
      simp [childrenNegotiate, hmilters, State.connections]
  · refine ⟨(do
        Proc.update fun s =>
          { s with
            options := s.options ++ [offered.clampVersion]
            option := some s.options.length
            initialYesSteps := offered.clampVersion.stepYes }
        initReplyQueue .negotiate
        Proc.each pushReplyQueue s.milters : Program PUnit) s |>.state, s.options.length,
      ?_, ?_, ?_, ?_⟩
    · simp [initReplyQueue, setState, setReplyStatus, each_pushReplyQueue, State.connections]
    · simp [initReplyQueue, setState, setReplyStatus, each_pushReplyQueue]
    · simp [initReplyQueue, setState, setReplyStatus, each_pushReplyQueue]
    · unfold beginAttempts
      simp [childrenNegotiate, hmilters, initReplyQueue, setState, setReplyStatus,
        each_pushReplyQueue]

theorem attemptsMade_of_connections {s s' : State} (hconnections : s'.connections = s.connections)
    (hmode : s'.privilegeMode = s.privilegeMode) (hlauncher : s'.launcher = s.launcher)
    (child : ChildId) : attemptsMade s' established child = attemptsMade s established child := by
  have hcontext : s'.context = s.context := congrArg Prod.fst hconnections
  unfold attemptsMade
  rw [hcontext, hmode, hlauncher]

/-- A new negotiation begins with the invariant when every child gets one attempt. -/
theorem attemptsKept_childrenNegotiate (offered : MilterOption) {s : State}
    (hnodup : s.milters.Nodup) (h : AttemptsBegun s.milters [] s)
    (hone : ∀ child ∈ s.milters, attemptsMade s established child = 1) :
    attemptsKept (childrenNegotiate offered established s).trace
      (childrenNegotiate offered established s).state := by
  obtain ⟨s', option, hconnections, hmode, hlauncher, happly⟩ :=
    @childrenNegotiate_apply established offered s
  have hcontext : s'.context = s.context := congrArg Prod.fst hconnections
  have hpending : s'.tryNegotiateIds = s.tryNegotiateIds :=
    congrArg (fun connections => connections.2.1) hconnections
  have hattempts : s'.attempts = s.attempts :=
    congrArg (fun connections => connections.2.2) hconnections
  have hbegun : AttemptsBegun s.milters [] s' := by
    refine ⟨?_, ?_, h.unconnected, ?_⟩
    · unfold attemptsKept
      rw [hcontext, hpending, hattempts]
      exact h.kept
    · rw [hpending]
      exact h.absent
    · rw [hcontext]
      exact h.unquitted
  rw [happly]
  refine attemptsKept_each_beginAttempts option hnodup (fun child hmem => ?_) hbegun
  rw [attemptsMade_of_connections hconnections hmode hlauncher]
  exact hone child hmem

/-- The children that wait after a new negotiation began. -/
theorem children_childrenNegotiate (offered : MilterOption) (s : State) :
    (childrenNegotiate offered established s).state.tryNegotiateIds.map (·.child) =
      s.tryNegotiateIds.map (·.child) ++
        s.milters.flatMap fun child =>
          List.replicate (attemptsMade s established child) child := by
  obtain ⟨s', option, hconnections, hmode, hlauncher, happly⟩ :=
    @childrenNegotiate_apply established offered s
  have hpending : s'.tryNegotiateIds = s.tryNegotiateIds :=
    congrArg (fun connections => connections.2.1) hconnections
  rw [happly, each_beginAttempts_children, hpending]
  simp only [attemptsMade_of_connections hconnections hmode hlauncher]

end Negotiate

section Runs

variable {children : List Context}

/-- A child that was just made. -/
def isNew (context : Context) : Prop :=
  context = .init context.fallbackStatus context.evaluationMode context.hasCommand

/-- No child that the launcher is asked to start is refused its first connection. -/
def RetriedOnce (children : List Context) (privilegeMode : Bool) (launcher : Launcher)
    (established : ChildId → Bool) : Prop :=
  ∀ child context, children[child]? = some context → privilegeMode = true → launcher = .working →
    context.hasCommand = true → established child = true

theorem not_offered_of_isNew {context : Context} (h : isNew context) : ¬Offered context := by
  rw [h]
  simp [Offered, Context.init]

theorem attemptsBegun_init (hnew : ∀ context ∈ children, isNew context) (privilegeMode : Bool)
    (launcher : Launcher) (chunkSize : ChunkSize) (surroundings : Surroundings) :
    AttemptsBegun (List.range children.length) []
      (State.init children privilegeMode launcher chunkSize surroundings) := by
  have hcontext (child : ChildId) : isNew
      ((State.init children privilegeMode launcher chunkSize surroundings).context child) := by
    show isNew (children.getD child (.init .accept false false))
    rw [List.getD_eq_getElem?_getD]
    cases hget : children[child]? with
    | none => rfl
    | some context => exact hnew context (List.mem_of_getElem? hget)
  refine ⟨?_, ?_, ?_, ?_⟩
  · exact {
      ids := List.nodup_nil
      below := fun _ hmem => by cases hmem
      once := List.nodup_nil
      unconnected := fun _ hmem => by cases hmem
      kept := fun _ hmem => by cases hmem
      reached := fun child hoffered => absurd hoffered (not_offered_of_isNew (hcontext child))
      handlers := fun child => by
        rw [hcontext child]
        exact Nat.zero_le _
      connectedOnce := fun _ => Nat.zero_le _
      onlyConnected := fun _ => Nat.le_refl _
      connectedKept := fun _ _ _ hmem => by cases hmem }
  · intro data hmem
    cases hmem
  · intro child _
    rfl
  · intro child _
    rw [hcontext child]
    rfl

theorem attemptsMade_init_eq_one_iff (privilegeMode : Bool) (launcher : Launcher)
    (chunkSize : ChunkSize) (surroundings : Surroundings) (established : ChildId → Bool) :
    (∀ child ∈ List.range children.length,
      attemptsMade (State.init children privilegeMode launcher chunkSize surroundings) established
        child = 1) ↔ RetriedOnce children privilegeMode launcher established := by
  have hmade (child : ChildId) (context : Context) (hget : children[child]? = some context) :
      attemptsMade (State.init children privilegeMode launcher chunkSize surroundings) established
        child = 1 ↔
        (privilegeMode = true → launcher = .working → context.hasCommand = true →
          established child = true) := by
    have hcontext :
        (State.init children privilegeMode launcher chunkSize surroundings).context child =
        context := by
      show children.getD child (.init .accept false false) = context
      rw [List.getD_eq_getElem?_getD, hget, Option.getD_some]
    unfold attemptsMade
    rw [hcontext]
    show (if !established child ∧ privilegeMode ∧ launcher = .working ∧ context.hasCommand then 2
      else 1) = 1 ↔ _
    cases established child <;> simp
  constructor
  · intro hone child context hget
    obtain ⟨hlt, -⟩ := List.getElem?_eq_some_iff.mp hget
    exact (hmade child context hget).mp (hone child (List.mem_range.mpr hlt))
  · intro honce child hmem
    have hget := List.getElem?_eq_getElem (List.mem_range.mp hmem)
    exact (hmade child _ hget).mpr (honce child _ hget)

/-- One attempt for each child, at every point of every run with one negotiation, exactly when no
child that the launcher is asked to start is refused its first connection. -/
theorem oneAttemptEach_iff (depth : Nat) (children : List Context)
    (hnew : ∀ context ∈ children, isNew context) (privilegeMode : Bool) (launcher : Launcher)
    (chunkSize : ChunkSize) (surroundings : Surroundings) (offered : MilterOption)
    (established : ChildId → Bool) (events : List Event)
    (hevents : ∀ event ∈ events, beginsNegotiation event = false) :
    (∀ front back, events = front ++ back →
      let outcome := run depth (.negotiate offered established :: front)
        (State.init children privilegeMode launcher chunkSize surroundings)
      OneAttemptEach outcome.trace outcome.state) ↔
      RetriedOnce children privilegeMode launcher established := by
  rw [← attemptsMade_init_eq_one_iff privilegeMode launcher chunkSize surroundings established]
  constructor
  · intro hall child hmem
    have hfirst := (hall [] events rfl).pendingOnce
    have hchildren := @children_childrenNegotiate established offered
      (State.init children privilegeMode launcher chunkSize surroundings)
    have hrun : (run depth [.negotiate offered established]
        (State.init children privilegeMode launcher chunkSize surroundings)).state =
        (childrenNegotiate offered established
          (State.init children privilegeMode launcher chunkSize surroundings)).state := rfl
    rw [hrun, hchildren] at hfirst
    have hblock := (List.nodup_flatMap.mp (List.Nodup.of_append_right hfirst)).1 child hmem
    by_contra hmore
    have htwo : attemptsMade (State.init children privilegeMode launcher chunkSize surroundings)
        established child = 2 := by
      unfold attemptsMade at hmore ⊢
      split at hmore
      · next hmet => exact if_pos hmet
      · exact absurd rfl hmore
    rw [htwo] at hblock
    simp at hblock
  · intro hone front back hsplit
    have hbegun := attemptsBegun_init hnew privilegeMode launcher chunkSize surroundings
    have hstart := attemptsKept_childrenNegotiate offered (s := State.init children privilegeMode
      launcher chunkSize surroundings) List.nodup_range hbegun hone
    have hrest : Proc.Keeps attemptsKept (run depth front) := by
      refine Proc.Keeps.each _ fun event hmem => keeps_attempts_perform depth ?_
      exact hevents event (hsplit ▸ List.mem_append_left _ hmem)
    exact AttemptsKept.oneAttemptEach (hrest _ _ hstart)

/-- A child that the launcher can start, in privilege mode. -/
def startableChild : State :=
  State.init [.init .accept false true] true .working ⟨65535, by decide⟩ .plain

/-- A child that accepts the first connection is connected once. -/
theorem oneAttemptEach_accepted :
    let outcome := run 3 [.negotiate ⟨6, 0#32, 0#32⟩ fun _ => true,
      .connected 0 true] startableChild
    OneAttemptEach outcome.trace outcome.state := by
  refine (oneAttemptEach_iff 3 [.init .accept false true] ?_ true .working
    ⟨65535, by decide⟩ .plain ⟨6, 0#32, 0#32⟩ (fun _ => true) [.connected 0 true]
    ?_).mpr (fun _ _ _ _ _ _ => rfl) [.connected 0 true] [] rfl
  · intro context hmem
    rw [List.mem_singleton.mp hmem]
    rfl
  · intro event hmem
    rw [List.mem_singleton.mp hmem]
    rfl

/-- Two retries are scheduled for a child that refuses the first connection, and one connection
later its signals were connected twice and it was dropped. -/
theorem not_oneAttemptEach_refused :
    ¬OneAttemptEach (run 3 [.negotiate ⟨6, 0#32, 0#32⟩ fun _ => false] startableChild).trace
        (run 3 [.negotiate ⟨6, 0#32, 0#32⟩ fun _ => false] startableChild).state ∧
      connectedTimes (run 3 [.negotiate ⟨6, 0#32, 0#32⟩ fun _ => false, .retry 0 true,
        .connected 0 true] startableChild).trace 0 = 2 ∧
      ((run 3 [.negotiate ⟨6, 0#32, 0#32⟩ fun _ => false, .retry 0 true,
        .connected 0 true] startableChild).state.context 0).quitted = true := by
  refine ⟨fun h => ?_, rfl, rfl⟩
  have hpending : ((run 3 [.negotiate ⟨6, 0#32, 0#32⟩ fun _ => false]
      startableChild).state.tryNegotiateIds.map (·.child)) = [0, 0] := rfl
  have honce := h.pendingOnce
  rw [hpending] at honce
  simp at honce

end Runs

end MilterManager.Children
