import Mathlib.Data.List.Basic
import Mathlib.Data.List.Forall2
import Mathlib.Data.List.Induction

/-!
# Occurrences and marked lists

Positions of the `k`-th element satisfying a test, the first element satisfying a test replaced
in place, and sublists of duplicate-free lists. Nothing here mentions a program.
-/

namespace MilterManager.Base

universe u

variable {α : Type u}

/-- Position of the `k`-th element (counted from 1) that satisfies `p`. -/
def findNth (p : α → Bool) : List α → Nat → Option Nat
  | [], _ => none
  | x :: xs, k =>
      if p x then
        if k = 1 then some 0 else (findNth p xs (k - 1)).map (· + 1)
      else (findNth p xs k).map (· + 1)

/-- A list cut at the first element that satisfies `p`. -/
def splitFirst (p : α → Bool) : List α → Option (List α × α × List α)
  | [] => none
  | x :: xs =>
      if p x then some ([], x, xs)
      else (splitFirst p xs).map fun (before, y, after) => (x :: before, y, after)

/-- `x` inserted so that `i` elements stand before it, at the end when there are fewer. -/
def insertAt (i : Nat) (x : α) (xs : List α) : List α :=
  xs.take i ++ x :: xs.drop i

/-- The `k`-th match is the one that has `k - 1` matches before it. -/
theorem findNth_append_cons (p : α → Bool) (before : List α) (x : α) (after : List α)
    (h : p x = true) :
    findNth p (before ++ x :: after) (before.countP p + 1) = some before.length := by
  induction before with
  | nil => simp [findNth, h]
  | cons y ys ih =>
      by_cases hy : p y = true
      · simp only [List.cons_append, findNth, hy, if_true, List.countP_cons_of_pos,
          Nat.add_eq_right, Nat.add_sub_cancel, ih, Option.map_some, List.length_cons]
        rw [if_neg (by omega)]
      · simp only [List.cons_append, findNth, hy, List.countP_cons_of_neg, ih,
          Option.map_some, List.length_cons, not_false_eq_true, Bool.false_eq_true, if_false]

/-- Modifying the position behind `before` changes the element that stands there. -/
theorem modify_append_cons (before : List α) (x : α) (after : List α) (f : α → α) :
    (before ++ x :: after).modify before.length f = before ++ f x :: after := by
  induction before with
  | nil => simp
  | cons y ys ih => simp [ih]

/-- The parts of a cut make up the list, and the test fails before the cut. -/
theorem splitFirst_eq_some (p : α → Bool) (xs : List α) (before : List α) (x : α)
    (after : List α) (h : splitFirst p xs = some (before, x, after)) :
    xs = before ++ x :: after ∧ p x = true ∧ ∀ y ∈ before, p y = false := by
  induction xs generalizing before with
  | nil => simp [splitFirst] at h
  | cons y ys ih =>
      by_cases hy : p y = true
      · simp only [splitFirst, hy, if_true, Option.some.injEq, Prod.mk.injEq] at h
        obtain ⟨rfl, rfl, rfl⟩ := h
        exact ⟨rfl, hy, by simp⟩
      · simp only [splitFirst, hy, Bool.false_eq_true, if_false, Option.map_eq_some_iff,
          Prod.exists, Prod.mk.injEq] at h
        obtain ⟨b, z, a, hsplit, rfl, rfl, rfl⟩ := h
        obtain ⟨rfl, hz, hb⟩ := ih b hsplit
        refine ⟨rfl, hz, ?_⟩
        intro w hw
        rcases List.mem_cons.mp hw with rfl | hw
        · simpa using hy
        · exact hb w hw

/-- A list without a match is not cut. -/
theorem splitFirst_eq_none (p : α → Bool) (xs : List α) :
    splitFirst p xs = none ↔ ∀ x ∈ xs, p x = false := by
  induction xs with
  | nil => simp [splitFirst]
  | cons y ys ih =>
      by_cases hy : p y = true
      · simp [splitFirst, hy]
      · simp [splitFirst, hy, ih]

/-- A list with a match splits at its first one. -/
theorem exists_first_match (p : α → Bool) (xs : List α) (h : ∃ x ∈ xs, p x = true) :
    ∃ before x after, xs = before ++ x :: after ∧ p x = true ∧ ∀ z ∈ before, p z = false := by
  cases hsplit : splitFirst p xs with
  | none =>
      obtain ⟨x, hx, hp⟩ := h
      rw [(splitFirst_eq_none p xs).mp hsplit x hx] at hp
      cases hp
  | some cut => exact ⟨_, _, _, splitFirst_eq_some p xs cut.1 cut.2.1 cut.2.2 hsplit⟩

/-- An element can be exchanged for one that stands in the relation to whatever it did. -/
theorem forall₂_exchange {β : Type u} {R : β → α → Prop} {ys : List β} {before after : List α}
    {x y : α} (h : List.Forall₂ R ys (before ++ x :: after)) (hxy : ∀ b, R b x → R b y) :
    List.Forall₂ R ys (before ++ y :: after) := by
  induction before generalizing ys with
  | nil =>
      cases h with
      | cons hx hrest => exact .cons (hxy _ hx) hrest
  | cons z zs ih =>
      cases h with
      | cons hz hrest => exact .cons hz (ih hrest)

/-- A related pair of lists splits where the second one does. -/
theorem forall₂_split {β : Type u} {R : β → α → Prop} {ys : List β} {before after : List α}
    {x : α} (h : List.Forall₂ R ys (before ++ x :: after)) :
    ∃ bs b as, ys = bs ++ b :: as ∧ List.Forall₂ R bs before ∧ R b x := by
  induction before generalizing ys with
  | nil =>
      cases h with
      | cons hx _ => exact ⟨[], _, _, rfl, .nil, hx⟩
  | cons z zs ih =>
      cases h with
      | cons hz hrest =>
          obtain ⟨bs, b, as, rfl, hbs, hb⟩ := ih hrest
          exact ⟨_ :: bs, b, as, rfl, .cons hz hbs, hb⟩

/-- Every element of the first list has a related one in the second. -/
theorem exists_of_forall₂_mem {β : Type u} {R : β → α → Prop} {ys : List β} {xs : List α}
    (h : List.Forall₂ R ys xs) {b : β} (hb : b ∈ ys) : ∃ x ∈ xs, R b x := by
  induction h with
  | nil => simp at hb
  | cons hx _ ih =>
      rcases List.mem_cons.mp hb with rfl | hb
      · exact ⟨_, by simp, hx⟩
      · obtain ⟨x, hmem, hR⟩ := ih hb
        exact ⟨x, List.mem_cons_of_mem _ hmem, hR⟩

/-- A sublist of a list without repetitions is determined by its elements. -/
theorem sublist_eq_of_perm [DecidableEq α] {xs ys zs : List α} (hzs : zs.Nodup)
    (hx : xs.Sublist zs) (hy : ys.Sublist zs) (h : xs.Perm ys) : xs = ys := by
  induction zs generalizing xs ys with
  | nil => rw [List.sublist_nil.mp hx, List.sublist_nil.mp hy]
  | cons z zs ih =>
      have hz : z ∉ zs := (List.nodup_cons.mp hzs).1
      have hzs' : zs.Nodup := (List.nodup_cons.mp hzs).2
      cases hx with
      | cons _ hx =>
          cases hy with
          | cons _ hy => exact ih hzs' hx hy h
          | cons_cons _ hy => exact absurd (hx.subset (h.mem_iff.mpr (by simp))) hz
      | cons_cons _ hx =>
          cases hy with
          | cons _ hy => exact absurd (hy.subset (h.mem_iff.mp (by simp))) hz
          | cons_cons _ hy => rw [ih hzs' hx hy h.cons_inv]

end MilterManager.Base
