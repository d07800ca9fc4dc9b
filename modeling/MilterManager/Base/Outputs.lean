/-!
# The answers of an object

An object answers calls one after the other and keeps a state in between. Where some calls read
what others leave in the state, the answers to a sequence of calls say which of its orders keep
the state out of sight.
-/

namespace MilterManager.Base

universe u v w

variable {σ : Type u} {α : Type v} {β : Type w}

/-- What an object answers to calls, one after the other. -/
def outputs (step : σ → α → σ × β) : σ → List α → List β
  | _, [] => []
  | s, call :: calls => (step s call).2 :: outputs step (step s call).1 calls

/-- What a new object for each of the calls answers. -/
def freshOutputs (step : σ → α → σ × β) (fresh : σ) (calls : List α) : List β :=
  calls.map fun call => (step fresh call).2

/-- The state behind some calls. -/
def stateAfter (step : σ → α → σ × β) (s : σ) (calls : List α) : σ :=
  calls.foldl (fun s call => (step s call).1) s

theorem stateAfter_append (step : σ → α → σ × β) (s : σ) (front back : List α) :
    stateAfter step s (front ++ back) = stateAfter step (stateAfter step s front) back :=
  List.foldl_append

theorem outputs_append (step : σ → α → σ × β) (s : σ) (front back : List α) :
    outputs step s (front ++ back) =
      outputs step s front ++ outputs step (stateAfter step s front) back := by
  induction front generalizing s with
  | nil => rfl
  | cons call front ih => exact congrArg (List.cons _) (ih _)

/-- Answers that do not depend on the state are those to the calls. -/
theorem outputs_eq_map {step : σ → α → σ × β} {answer : α → β}
    (h : ∀ s call, (step s call).2 = answer call) (s : σ) (calls : List α) :
    outputs step s calls = calls.map answer := by
  induction calls generalizing s with
  | nil => rfl
  | cons call calls ih => rw [outputs, h, ih, List.map_cons]

section History

variable {step : σ → α → σ × β} {fresh : σ} {clean : σ → Prop} {sensitive soils : α → Prop}

/-- A state that is not clean shows in the answers to sensitive calls, and the calls that soil it
are known: the answers are those of new objects exactly when no sensitive call comes behind one
that soils. -/
theorem outputs_eq_fresh_iff
    (hanswer : ∀ s call, (step s call).2 = (step fresh call).2 ↔ clean s ∨ ¬sensitive call)
    (hnext : ∀ s call, clean (step s call).1 ↔ clean s ∧ ¬soils call) (s : σ) (calls : List α) :
    outputs step s calls = freshOutputs step fresh calls ↔
      (clean s ∨ ∀ call ∈ calls, ¬sensitive call) ∧
        calls.Pairwise fun earlier later => soils earlier → ¬sensitive later := by
  induction calls generalizing s with
  | nil => simp [outputs, freshOutputs]
  | cons call calls ih =>
      have hcons : outputs step s (call :: calls) = freshOutputs step fresh (call :: calls) ↔
          (step s call).2 = (step fresh call).2 ∧
            outputs step (step s call).1 calls = freshOutputs step fresh calls := by
        rw [outputs, freshOutputs, List.map_cons, List.cons.injEq]
        rfl
      rw [hcons, hanswer, ih, hnext, List.pairwise_cons, List.forall_mem_cons]
      by_cases hsoils : soils call
      · by_cases hclean : clean s
        · simp [hsoils, hclean]
        · simp [hsoils, hclean, and_assoc]
      · by_cases hclean : clean s
        · simp [hsoils, hclean]
        · simp [hsoils, hclean, and_assoc]

end History

end MilterManager.Base
