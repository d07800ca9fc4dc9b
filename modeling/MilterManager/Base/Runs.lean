/-!
# Runs of a step function

A run is the list of the events that a state takes one after the other. What holds of every step
of a run follows from an invariant that every step keeps, also where the invariant is kept only
by the steps that meet a condition.
-/

namespace MilterManager.Base

universe u v

variable {σ : Type u} {ε : Type v}

/-- Every event of a run and the state before it stand in a relation. -/
def Along (step : σ → ε → σ) (P : σ → ε → Prop) : σ → List ε → Prop
  | _, [] => True
  | s, event :: events => P s event ∧ Along step P (step s event) events

namespace Along

variable {step : σ → ε → σ} {inv : σ → Prop} {P Q : σ → ε → Prop} {s : σ} {event : ε}
variable {events : List ε}

@[simp] theorem nil : Along step P s [] ↔ True := Iff.rfl

@[simp] theorem cons :
    Along step P s (event :: events) ↔ P s event ∧ Along step P (step s event) events := Iff.rfl

instance decidable [h : ∀ s event, Decidable (P s event)] :
    ∀ (s : σ) (events : List ε), Decidable (Along step P s events)
  | _, [] => isTrue trivial
  | s, event :: events => @instDecidableAnd _ _ (h s event) (decidable (step s event) events)

theorem of_forall (h : ∀ s event, P s event) (s : σ) (events : List ε) : Along step P s events := by
  induction events generalizing s with
  | nil => trivial
  | cons event events ih => exact ⟨h s event, ih _⟩

/-- A run of two parts. -/
theorem append {front back : List ε} :
    Along step P s (front ++ back) ↔
      Along step P s front ∧ Along step P (front.foldl step s) back := by
  induction front generalizing s with
  | nil => exact (and_iff_right trivial).symm
  | cons event front ih => rw [List.cons_append, cons, cons, ih, and_assoc, List.foldl_cons]

/-- An invariant kept by the steps that meet `P` carries `Q` along every run that meets `P`. -/
theorem of_invariant (hstep : ∀ s event, inv s → P s event → inv (step s event) ∧ Q s event)
    (hs : inv s) (h : Along step P s events) : Along step Q s events := by
  induction events generalizing s with
  | nil => trivial
  | cons event events ih =>
      have hnext := hstep s event hs h.1
      exact ⟨hnext.2, ih hnext.1 h.2⟩

/-- Relations that agree as long as an invariant holds agree along every run, where the steps that
meet the first one keep the invariant. -/
theorem congr_of_invariant (hinv : ∀ s event, inv s → P s event → inv (step s event))
    (hstep : ∀ s event, inv s → (P s event ↔ Q s event)) (hs : inv s) :
    Along step P s events ↔ Along step Q s events := by
  induction events generalizing s with
  | nil => exact Iff.rfl
  | cons event events ih =>
      rw [cons, cons, ← hstep s event hs]
      apply and_congr_right
      intro hP
      exact ih (hinv s event hs hP)

/-- Where a step keeps a property exactly when it meets `P`, a run keeps it exactly when all its
steps meet `P`. -/
theorem iff_of_invariant {good : σ → Prop} (hinv : ∀ s event, inv s → inv (step s event))
    (hstep : ∀ s event, inv s → good s → (good (step s event) ↔ P s event)) (hs : inv s)
    (hgood : good s) :
    Along step (fun s event => good (step s event)) s events ↔ Along step P s events := by
  apply @congr_of_invariant _ _ step fun s => inv s ∧ good s
  · exact fun s event h hnext => ⟨hinv s event h.1, hnext⟩
  · exact fun s event h => hstep s event h.1 h.2
  · exact ⟨hs, hgood⟩

end Along

end MilterManager.Base
