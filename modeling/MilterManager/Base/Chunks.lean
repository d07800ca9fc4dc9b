import Mathlib.Data.List.Basic

/-!
# Cutting a list into chunks

A list sent in pieces of a bounded size, the last one shorter.
-/

namespace MilterManager.Base

universe u

variable {α : Type u}

private def chunksWithin (size : Nat) : Nat → List α → List (List α)
  | 0, _ => []
  | fuel + 1, xs =>
      match xs with
      | [] => []
      | x :: rest => (x :: rest).take size :: chunksWithin size fuel ((x :: rest).drop size)

/-- The pieces of `size` elements that make up a list. -/
def chunks (size : Nat) (xs : List α) : List (List α) :=
  chunksWithin size xs.length xs

private theorem length_drop_le {size : Nat} (hsize : 0 < size) {fuel : Nat} {x : α} {rest : List α}
    (h : (x :: rest).length ≤ fuel + 1) : ((x :: rest).drop size).length ≤ fuel := by
  simp only [List.length_drop, List.length_cons] at h ⊢
  omega

private theorem chunksWithin_congr (size : Nat) (hsize : 0 < size) (fuel more : Nat) (xs : List α)
    (h : xs.length ≤ fuel) (hmore : xs.length ≤ more) :
    chunksWithin size fuel xs = chunksWithin size more xs := by
  induction fuel generalizing xs more with
  | zero =>
      obtain rfl := List.length_eq_zero_iff.mp (Nat.le_zero.mp h)
      cases more with
      | _ => rfl
  | succ fuel ih =>
      cases xs with
      | nil =>
          cases more with
          | _ => rfl
      | cons x rest =>
          cases more with
          | zero => exact absurd hmore (Nat.not_succ_le_zero _)
          | succ more =>
              rw [chunksWithin, chunksWithin,
                ih more _ (length_drop_le hsize h) (length_drop_le hsize hmore)]

@[simp] theorem chunks_nil (size : Nat) : chunks size ([] : List α) = [] := rfl

/-- The first piece of a list, and the pieces of the rest. -/
theorem chunks_of_ne_nil (size : Nat) (hsize : 0 < size) {xs : List α} (h : xs ≠ []) :
    chunks size xs = xs.take size :: chunks size (xs.drop size) := by
  cases xs with
  | nil => exact absurd rfl h
  | cons x rest =>
      rw [chunks, chunks, List.length_cons, chunksWithin]
      congr 1
      exact chunksWithin_congr size hsize _ _ _ (length_drop_le hsize (Nat.le_refl _))
        (Nat.le_refl _)

end MilterManager.Base
