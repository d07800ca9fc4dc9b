import MilterManager.Children.RunKeeps

/-!
# What the children object keeps of a child

The configuration of a child never changes, and the handlers of the children object move a child
to a state of a message only by replaying a command of the message to it. Both follow from the pass
over the functions of the children object, for any property of the configuration and the state of
each child.
-/

namespace MilterManager.Children

open MilterManager.Base MilterManager.Core MilterManager.Server

/-- A property of the data of each child that depends on its configuration and its state only, and
that holds whenever the child enters a state of `enters`. -/
structure IsSteady (p : ChildId → Context → Prop) (enters : ContextState → Prop) : Prop where
  step : ∀ child context next, configuration next = configuration context →
    (next.state = context.state ∨ enters next.state) → p child context → p child next

/-- Every child has the property. -/
def eachContext (p : ChildId → Context → Prop) (_past : List Action) (s : State) : Prop :=
  ∀ child, p child (s.context child)

section Steps

variable {p : ChildId → Context → Prop} {enters : ContextState → Prop} {call : Handlers}
variable {child : ChildId}

theorem keepsContexts_update {f : State → State} (hf : ∀ s, (f s).context = s.context) :
    Proc.Keeps (eachContext p) (Proc.update f) := by
  refine Proc.Keeps.update fun past s h other => ?_
  rw [hf]
  exact h other

theorem keepsContexts_record {entry : State → Action} :
    Proc.Keeps (eachContext p) (Proc.record entry) :=
  Proc.Keeps.record fun _ _ h => h

theorem IsSteady.context (hp : IsSteady p enters) {f : Context → Context}
    (hconfiguration : ∀ context, configuration (f context) = configuration context)
    (hstate : ∀ context, (f context).state = context.state ∨ enters (f context).state) :
    Proc.Keeps (eachContext p) (updateContext child f) := by
  refine Proc.Keeps.update fun past s h other => ?_
  by_cases heq : other = child
  · subst heq
    simpa using hp.step other _ _ (hconfiguration _) (hstate _) (h other)
  · simpa [Function.update_of_ne heq] using h other

theorem IsSteady.connection (hp : IsSteady p enters)
    {allowed : Callback → Prop} (hdomain : ∀ domain, allowed (.error domain))
    (hattempt : ∀ attempt domain, allowed (.connectionError attempt domain))
    (hcalled : ∀ child callback, Proc.Keeps (eachContext p) (call child callback)) :
    ConnectionKeeps (.keeps (eachContext p)) call enters allowed where
  context child f hf := by
    refine hp.context (fun context => ?_) fun context => (hf context).2.1
    have hsetup : (f context).setup = context.setup := (hf context).1
    exact congrArg (fun setup => setup.2.2) hsetup
  sent _ _ _ := keepsContexts_record
  called child callback _ _ := hcalled child callback
  entered child callback _ := ConnectionKeeps.of_enter (hcalled child callback)
  error domain _ := hdomain domain
  connectionError attempt domain _ := hattempt attempt domain

theorem IsSteady.run (hp : IsSteady p enters)
    (henters : ∀ state, isReplayed state → enters state)
    (hcalled : ∀ child callback, Proc.Keeps (eachContext p) (call child callback)) :
    RunKeeps (.keeps (eachContext p)) call enters where
  toObjectKeeps :=
    ObjectKeeps.of_invariant (hp.connection (fun _ => rfl) (fun _ _ => rfl) hcalled)
      (fun _ hf => keepsContexts_update fun s => congrArg Prod.fst (hf s))
      (fun _ _ => keepsContexts_record) henters
  child _ _ hconfiguration hstate := hp.context hconfiguration hstate
  attempts _ hf := keepsContexts_update hf.context
  offered _ _ := keepsContexts_record

end Steps

/-- The handlers keep the property, entered down to any depth. -/
theorem keepsContexts_dispatch {p : ChildId → Context → Prop} {enters : ContextState → Prop}
    (hp : IsSteady p enters) (henters : ∀ state, isReplayed state → enters state) (depth : Nat)
    (child : ChildId) (callback : Callback) :
    (ProgramLaw.keeps (eachContext p)).Holds (dispatch depth child callback) :=
  RunKeeps.of_dispatch (fun _ _ => keepsContexts_record) (fun _ => hp.run henters) depth child
    callback

/-- Every event keeps a property that depends on the configuration of each child only. -/
theorem keepsContexts_perform {p : ChildId → Context → Prop} {call : Handlers}
    (hp : IsSteady p fun _ => True)
    (hcalled : ∀ child callback, Proc.Keeps (eachContext p) (call child callback)) {event : Event} :
    Proc.Keeps (eachContext p) (perform call event) :=
  (hp.run (fun _ _ => trivial) hcalled).of_anyPerform fun child _ => hcalled child _

end MilterManager.Children
