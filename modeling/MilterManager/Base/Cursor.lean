import Mathlib.Data.List.Basic
import Mathlib.Data.List.Nodup

/-!
# Cursors into a list

A cursor is a node of a linked list whose values are all different: the value at the node, or
none after the last node. A walk takes a bounded number of steps from a cursor and may unlink the
node it has just visited, after it has read where the next one is.
-/

namespace MilterManager.Base

universe u

namespace Cursor

variable {α : Type u} [DecidableEq α]

/-- The nodes from a cursor on; a cursor that is no node of the list has none. -/
def nodes (l : List α) : Option α → List α
  | none => []
  | some a => l.dropWhile (· ≠ a)

/-- The node after a node. -/
def next (l : List α) (a : α) : Option α := (nodes l (some a)).tail.head?

/-- Where a walk of at most `n` steps from a cursor ends, and the list after the nodes that it
visited and did not want to keep have been unlinked. -/
def walk (keep : α → Bool) : Nat → Option α → List α → Option α × List α
  | 0, cursor, l => (cursor, l)
  | _ + 1, none, l => (none, l)
  | n + 1, some a, l => walk keep n (next l a) (if keep a then l else l.erase a)

@[simp] theorem nodes_none (l : List α) : nodes l none = [] := rfl

theorem nodes_cons_self (a : α) (l : List α) : nodes (a :: l) (some a) = a :: l := by
  simp [nodes]

theorem nodes_cons_of_ne {a b : α} (l : List α) (h : b ≠ a) :
    nodes (b :: l) (some a) = nodes l (some a) := by
  simp [nodes, h]

theorem nodes_sublist (l : List α) (cursor : Option α) : nodes l cursor <:+ l := by
  cases cursor with
  | none => exact List.nil_suffix
  | some a => exact List.dropWhile_suffix _

/-- The nodes from a node on are the node and those from the next one on. -/
theorem nodes_of_mem {l : List α} (hnodup : l.Nodup) {a : α} (h : a ∈ l) :
    nodes l (some a) = a :: nodes l (next l a) := by
  induction l with
  | nil => exact absurd h List.not_mem_nil
  | cons b l ih =>
      have hrest := (List.nodup_cons.mp hnodup).2
      by_cases hb : b = a
      · subst hb
        rw [next, nodes_cons_self, List.tail_cons]
        cases l with
        | nil => rfl
        | cons c l =>
            have hbc : b ≠ c := fun heq => (List.nodup_cons.mp hnodup).1 (heq ▸ List.mem_cons_self)
            rw [List.head?_cons, nodes_cons_of_ne _ hbc, nodes_cons_self]
      · have hmem : a ∈ l := (List.mem_cons.mp h).resolve_left (Ne.symm hb)
        rw [next, nodes_cons_of_ne l hb, ih hrest hmem, List.tail_cons]
        cases hnext : (nodes l (next l a)).head? with
        | none =>
            rw [List.head?_eq_none_iff.mp hnext, nodes_none]
        | some c =>
            have hc : c ∈ l := by
              apply (nodes_sublist l (next l a)).subset
              exact List.mem_of_mem_head? hnext
            have hbc : b ≠ c := fun heq => (List.nodup_cons.mp hnodup).1 (heq ▸ hc)
            have hcursor : next l a = some c := by
              rw [next, ih hrest hmem, List.tail_cons, hnext]
            rw [nodes_cons_of_ne l hbc, ← hcursor]

theorem next_mem {l : List α} {a b : α} (h : next l a = some b) : b ∈ l := by
  apply (nodes_sublist l (some a)).subset
  apply List.mem_of_mem_tail
  exact List.mem_of_mem_head? h

theorem next_ne {l : List α} (hnodup : l.Nodup) {a : α} (ha : a ∈ l) : next l a ≠ some a := by
  intro h
  have hnodes := nodes_of_mem hnodup ha
  rw [h] at hnodes
  exact absurd (congrArg List.length hnodes) (by simp)

/-- Unlinking another node leaves the nodes from a node on as they are, without that one. -/
theorem nodes_erase {l : List α} (hnodup : l.Nodup) {a b : α} (h : b ≠ a) :
    nodes (l.erase a) (some b) = (nodes l (some b)).erase a := by
  induction l with
  | nil => rfl
  | cons c l ih =>
      obtain ⟨hc, hrest⟩ := List.nodup_cons.mp hnodup
      by_cases hca : c = a
      · subst hca
        rw [List.erase_cons_head, nodes_cons_of_ne l (Ne.symm h)]
        apply (List.erase_of_not_mem _).symm
        exact fun hmem => hc ((nodes_sublist l (some b)).subset hmem)
      · rw [List.erase_cons_tail (by simpa using hca)]
        by_cases hcb : c = b
        · subst hcb
          rw [nodes_cons_self, nodes_cons_self, List.erase_cons_tail (by simpa using hca)]
        · rw [nodes_cons_of_ne _ hcb, nodes_cons_of_ne _ hcb, ih hrest]

theorem not_mem_nodes_next {l : List α} (hnodup : l.Nodup) {a : α} (ha : a ∈ l) :
    a ∉ nodes l (next l a) := by
  have hnodes : (nodes l (some a)).Nodup := hnodup.sublist (nodes_sublist l (some a)).sublist
  rw [nodes_of_mem hnodup ha] at hnodes
  exact (List.nodup_cons.mp hnodes).1

/-- Unlinking a node leaves the nodes after it. -/
theorem nodes_erase_next {l : List α} (hnodup : l.Nodup) {a : α} (ha : a ∈ l) :
    nodes (l.erase a) (next l a) = nodes l (next l a) := by
  have hnot := not_mem_nodes_next hnodup ha
  cases hnext : next l a with
  | none => rfl
  | some b =>
      have hb : b ≠ a := fun heq => next_ne hnodup ha (heq ▸ hnext)
      rw [nodes_erase hnodup hb]
      rw [hnext] at hnot
      exact List.erase_of_not_mem hnot

/-- A walk ends at the first node that it did not visit, and unlinks what it visited and did not
want to keep. -/
theorem walk_eq (keep : α → Bool) (n : Nat) {cursor : Option α} {l : List α} (hnodup : l.Nodup)
    (hcursor : ∀ a, cursor = some a → a ∈ l) :
    walk keep n cursor l =
      (((nodes l cursor).drop n).head?,
        l.filter fun a => decide (a ∉ (nodes l cursor).take n) || keep a) := by
  induction n generalizing cursor l with
  | zero =>
      rw [List.drop_zero, List.take_zero]
      have hall : (l.filter fun a => decide (a ∉ ([] : List α)) || keep a) = l := by simp
      rw [hall]
      cases cursor with
      | none => rfl
      | some a => rw [nodes_of_mem hnodup (hcursor a rfl)]; rfl
  | succ n ih =>
      cases cursor with
      | none => simp [walk]
      | some a =>
          have ha : a ∈ l := hcursor a rfl
          have hfresh := not_mem_nodes_next hnodup ha
          rw [nodes_of_mem hnodup ha, List.drop_succ_cons, List.take_succ_cons]
          by_cases hkeep : keep a = true
          · rw [walk, if_pos hkeep, ih hnodup fun b => next_mem]
            congr 1
            apply List.filter_congr
            intro b _
            by_cases hb : b = a
            · subst hb
              simp [hkeep]
            · simp [hb]
          · rw [walk, if_neg hkeep, ih (hnodup.erase a), nodes_erase_next hnodup ha]
            · rw [hnodup.erase_eq_filter, List.filter_filter]
              congr 1
              apply List.filter_congr
              intro b _
              by_cases hb : b = a
              · subst hb
                simp [hkeep]
              · simp [hb]
            · intro b hb
              have hne : b ≠ a := fun heq => next_ne hnodup ha (heq ▸ hb)
              exact (List.mem_erase_of_ne hne).mpr (next_mem hb)

end Cursor

end MilterManager.Base
