import Mathlib.Data.List.Basic

/-!
# Merges

What several sources have given to one sequence. Each entry says where it is from, and the part of
a source is what it gave, in its order.
-/

namespace MilterManager.Base

universe u v w

variable {ι : Type u} {α : Type v} {β : Type w} [DecidableEq ι]

/-- What a source has given to a merge. -/
def partOf (source : ι) (merge : List (ι × α)) : List α :=
  (merge.filter (·.1 = source)).map Prod.snd

/-- All that is given by one source. -/
def givenBy (source : ι) (xs : List α) : List (ι × α) := xs.map (Prod.mk source)

@[simp] theorem partOf_nil (source : ι) : partOf source ([] : List (ι × α)) = [] := rfl

@[simp] theorem partOf_append (source : ι) (front back : List (ι × α)) :
    partOf source (front ++ back) = partOf source front ++ partOf source back := by
  rw [partOf, List.filter_append, List.map_append]
  rfl

@[simp] theorem partOf_givenBy (source : ι) (xs : List α) :
    partOf source (givenBy source xs) = xs := by
  have hall : ∀ entry ∈ givenBy source xs, decide (entry.1 = source) = true := by
    intro entry hentry
    rcases List.mem_map.mp hentry with ⟨x, _, rfl⟩
    exact decide_eq_true rfl
  rw [partOf, List.filter_eq_self.mpr hall, givenBy, List.map_map]
  exact List.map_id xs

theorem partOf_givenBy_of_ne {source other : ι} (h : other ≠ source) (xs : List α) :
    partOf source (givenBy other xs) = [] := by
  have hnone : ∀ entry ∈ givenBy other xs, ¬decide (entry.1 = source) = true := by
    intro entry hentry
    rcases List.mem_map.mp hentry with ⟨x, _, rfl⟩
    exact fun heq => h (of_decide_eq_true heq)
  rw [partOf, List.filter_eq_nil_iff.mpr hnone]
  rfl

omit [DecidableEq ι] in
@[simp] theorem map_snd_givenBy (source : ι) (xs : List α) :
    (givenBy source xs).map Prod.snd = xs := by
  rw [givenBy, List.map_map]
  exact List.map_id xs

theorem mem_partOf {source : ι} {x : α} {merge : List (ι × α)} (h : (source, x) ∈ merge) :
    x ∈ partOf source merge :=
  List.mem_map.mpr ⟨(source, x), List.mem_filter.mpr ⟨h, decide_eq_true rfl⟩, rfl⟩

/-- The parts of a merge whose entries are read as something else. -/
theorem partOf_map (f : α → β) (source : ι) (merge : List (ι × α)) :
    partOf source (merge.map (Prod.map id f)) = (partOf source merge).map f := by
  rw [partOf, partOf, List.filter_map, List.map_map, List.map_map]
  rfl

end MilterManager.Base
