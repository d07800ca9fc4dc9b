import MilterManager.Base.Runs

/-!
# The windows of an output

What a machine puts out is cut into windows: some events close the window before them, some the
window with them. A machine that holds output back and one that puts it out at once agree window
by window exactly as long as nothing is held back when a window closes.
-/

namespace MilterManager.Base

universe u v w

variable {σ : Type u} {ε : Type v} {β : Type w}

/-- The windows that have closed, of a run whose open window holds `current`. -/
def windows (step : σ → ε → σ) (closes ends : ε → Bool) (out : σ → ε → List β) :
    List β → σ → List ε → List (List β)
  | _, _, [] => []
  | current, s, event :: events =>
      if closes event then
        current :: windows step closes ends out (out s event) (step s event) events
      else if ends event then
        (current ++ out s event) :: windows step closes ends out [] (step s event) events
      else
        windows step closes ends out (current ++ out s event) (step s event) events

section Windows

variable {step : σ → ε → σ} {closes ends : ε → Bool} {out due : σ → ε → List β}
variable {held : σ → List β} {inv : σ → Prop}

/-- Machines in related states, with the same output for the same events, have the same windows. -/
theorem windows_congr {R : σ → σ → Prop}
    (hstep : ∀ s t event, R s t → R (step s event) (step t event) ∧ out s event = out t event)
    (current : List β) (s t : σ) (h : R s t) (events : List ε) :
    windows step closes ends out current s events =
      windows step closes ends out current t events := by
  induction events generalizing current s t with
  | nil => rfl
  | cons event events ih =>
      have hnext := hstep s t event h
      rw [windows, windows, hnext.2, ih _ _ _ hnext.1, ih _ _ _ hnext.1, ih _ _ _ hnext.1]

/-- What is put out and still held back is what was held back and what is due, unless a window
closes on what is held back; nothing is held back behind a window that an event ends. The windows
put out are those that are due exactly when no window closes on what is held back. -/
theorem windows_eq_iff
    (hinv : ∀ s event, inv s → inv (step s event))
    (hout : ∀ s event, inv s → (closes event → held s = []) →
      out s event ++ held (step s event) = held s ++ due s event)
    (hends : ∀ s event, inv s → ends event → held (step s event) = [])
    (current owed : List β) (s : σ) (hs : inv s) (events : List ε) (h : owed = current ++ held s) :
    windows step closes ends out current s events = windows step closes ends due owed s events ↔
      Along step (fun s event => closes event → held s = []) s events := by
  induction events generalizing current owed s with
  | nil => exact iff_of_true rfl trivial
  | cons event events ih =>
      have hstep := hinv s event hs
      rw [windows, windows, Along.cons]
      by_cases hcloses : closes event = true
      · rw [if_pos hcloses, if_pos hcloses, List.cons.injEq, h, List.self_eq_append_right]
        have hiff : (closes event = true → held s = []) ↔ held s = [] :=
          ⟨fun himp => himp hcloses, fun hnil _ => hnil⟩
        rw [hiff]
        apply and_congr_right
        intro hnil
        have hnext := hout s event hs fun _ => hnil
        rw [hnil, List.nil_append] at hnext
        exact ih _ _ _ hstep hnext.symm
      · have hnext := hout s event hs fun hclose => absurd hclose hcloses
        have howed : owed ++ due s event = current ++ out s event ++ held (step s event) := by
          rw [h, List.append_assoc, ← hnext, List.append_assoc]
        rw [if_neg hcloses, if_neg hcloses]
        have htrue : (closes event = true → held s = []) ↔ True :=
          iff_true_intro fun hclose => absurd hclose hcloses
        rw [htrue, true_and]
        by_cases hend : ends event = true
        · have hnil := hends s event hs hend
          rw [hnil, List.append_nil] at howed
          rw [if_pos hend, if_pos hend, List.cons.injEq, howed, and_iff_right rfl]
          apply ih _ _ _ hstep
          rw [hnil]
          rfl
        · rw [if_neg hend, if_neg hend]
          exact ih _ _ _ hstep howed

end Windows

end MilterManager.Base
