import Mathlib.Data.Finmap

/-!
# Tables that are filled key by key

A table is what inserting all of its entries into the empty table gives, in whatever order and
however often. Nothing here mentions a program.
-/

namespace MilterManager.Base

universe u v

variable {κ : Type u} {ν : Type v} [DecidableEq κ]

theorem lookup_foldl_insert (value : κ → ν) (keys : List κ) (table : Finmap fun _ : κ => ν)
    (key : κ) :
    (keys.foldl (fun table key => table.insert key (value key)) table).lookup key =
      if key ∈ keys then some (value key) else table.lookup key := by
  induction keys generalizing table with
  | nil => simp
  | cons first keys ih =>
      rw [List.foldl_cons, ih]
      by_cases hmem : key ∈ keys
      · rw [if_pos hmem, if_pos (List.mem_cons_of_mem _ hmem)]
      · rw [if_neg hmem]
        by_cases hfirst : key = first
        · subst hfirst
          rw [if_pos List.mem_cons_self, Finmap.lookup_insert]
        · have hnot : key ∉ first :: keys := by simp [hfirst, hmem]
          rw [if_neg hnot, Finmap.lookup_insert_of_ne _ hfirst]

/-- All entries of the table are inserted, and no other. -/
theorem foldl_insert_empty (table : Finmap fun _ : κ => ν) (keys : List κ) (value : κ → ν)
    (hkeys : ∀ key, key ∈ keys ↔ key ∈ table)
    (hvalue : ∀ key ∈ table, table.lookup key = some (value key)) :
    keys.foldl (fun table key => table.insert key (value key)) ∅ = table := by
  apply Finmap.ext_lookup
  intro key
  rw [lookup_foldl_insert]
  by_cases hmem : key ∈ keys
  · rw [if_pos hmem, hvalue key ((hkeys key).mp hmem)]
  · have hkey : key ∉ table := fun hkey => hmem ((hkeys key).mpr hkey)
    rw [if_neg hmem, Finmap.lookup_empty, Finmap.lookup_eq_none.mpr hkey]

/-- The entries of a table that have a value. -/
def withValue (table : Finmap fun _ : κ => Option ν) : Finmap fun _ : κ => Option ν :=
  table.liftOn
    (fun entries => AList.toFinmap
      ⟨entries.entries.filter fun entry => entry.2.isSome,
        List.Nodup.sublist (List.filter_sublist.map Sigma.fst) entries.nodupKeys⟩)
    fun _ _ h => AList.toFinmap_eq.mpr (h.filter _)

theorem lookup_withValue (table : Finmap fun _ : κ => Option ν) (key : κ) (value : Option ν) :
    (withValue table).lookup key = some value ↔
      table.lookup key = some value ∧ value.isSome = true := by
  induction table using Finmap.induction_on with
  | H entries =>
      have hmem (entries : AList fun _ : κ => Option ν) :
          entries.toFinmap.lookup key = some value ↔ ⟨key, value⟩ ∈ entries.entries := by
        rw [Finmap.lookup_toFinmap]
        exact AList.mem_lookup_iff
      rw [withValue, Finmap.liftOn_toFinmap, hmem, hmem, List.mem_filter]

section Layers

variable {before after layers : List (Finmap fun _ : κ => ν)} {layer layer' : Finmap fun _ : κ => ν}

/-- The table under layers of which a later one hides an earlier one. -/
def overlay (layers : List (Finmap fun _ : κ => ν)) : Finmap fun _ : κ => ν :=
  layers.foldl (fun table layer => layer ∪ table) ∅

theorem lookup_union (key : κ) (table : Finmap fun _ : κ => ν) :
    (layer ∪ table).lookup key = (layer.lookup key).or (table.lookup key) := by
  cases hlayer : layer.lookup key with
  | none =>
      rw [Finmap.lookup_union_right (Finmap.lookup_eq_none.mp hlayer)]
      rfl
  | some value =>
      rw [Finmap.lookup_union_left (Finmap.mem_iff.mpr ⟨value, hlayer⟩), hlayer]
      rfl

theorem lookup_foldl_union (key : κ) (table : Finmap fun _ : κ => ν) :
    (layers.foldl (fun table layer => layer ∪ table) table).lookup key =
      ((overlay layers).lookup key).or (table.lookup key) := by
  induction layers generalizing table with
  | nil => rw [overlay, List.foldl_nil, List.foldl_nil, Finmap.lookup_empty, Option.none_or]
  | cons layer layers ih =>
      rw [overlay, List.foldl_cons, List.foldl_cons, ih, ih, lookup_union, lookup_union,
        Finmap.lookup_empty, Option.or_none, Option.or_assoc]

/-- A key has the value of the last layer that has it. -/
theorem lookup_overlay_append (key : κ) :
    (overlay (before ++ layer :: after)).lookup key =
      ((overlay after).lookup key).or
        ((layer.lookup key).or ((overlay before).lookup key)) := by
  rw [overlay, List.foldl_append, List.foldl_cons, lookup_foldl_union, lookup_union]
  rfl

theorem lookup_overlay_ne_none (key : κ) :
    (overlay layers).lookup key ≠ none ↔ ∃ layer ∈ layers, key ∈ layer := by
  induction layers with
  | nil => simp [overlay]
  | cons layer layers ih =>
      have hsplit := @lookup_overlay_append _ _ _ [] layers layer key
      rw [List.nil_append] at hsplit
      rw [hsplit, List.exists_mem_cons_iff, ← ih, ← Finmap.lookup_isSome]
      cases (overlay layers).lookup key <;> cases layer.lookup key <;> simp [overlay]

/-- One layer can be exchanged unseen when each key is hidden by a later layer or has the value that
it had. -/
theorem overlay_exchange_iff :
    overlay (before ++ layer' :: after) = overlay (before ++ layer :: after) ↔
      ∀ key, (∃ cover ∈ after, key ∈ cover) ∨
        (layer'.lookup key).or ((overlay before).lookup key) =
          (layer.lookup key).or ((overlay before).lookup key) := by
  constructor
  · intro heq key
    rw [← lookup_overlay_ne_none]
    have hkey := congrArg (Finmap.lookup key) heq
    rw [lookup_overlay_append, lookup_overlay_append] at hkey
    cases hafter : (overlay after).lookup key with
    | none =>
        rw [hafter, Option.none_or, Option.none_or] at hkey
        exact .inr hkey
    | some value => exact .inl (Option.some_ne_none value)
  · intro h
    apply Finmap.ext_lookup
    intro key
    rw [lookup_overlay_append, lookup_overlay_append]
    rcases h key with hhidden | hsame
    · rw [← lookup_overlay_ne_none] at hhidden
      cases hafter : (overlay after).lookup key with
      | none => exact absurd hafter hhidden
      | some value => rfl
    · rw [hsame]

end Layers

end MilterManager.Base
