import MilterManager.Base.Runs
import MilterManager.Server.Macros

/-!
# The table of available macros

The operations on the macros of a `MilterProtocolAgent`, from `milter/core/milter-protocol-agent.c`,
with the table that `milter_protocol_agent_get_available_macros` keeps once it has merged it.
-/

namespace MilterManager.Server

open MilterManager.Base MilterManager.Core MilterManager.Codec

/-- `MilterProtocolAgentPrivate`. -/
structure MacroAgent extends ProtocolAgent where
  availableMacros : Option Macros

/-- `macro_search_order`. -/
def macroSearchOrder : List MilterCommand :=
  [.connect, .helo, .envelopeFrom, .envelopeRecipient, .data, .header, .endOfHeader, .body,
    .endOfMessage]

/-- The loop of `milter_protocol_agent_get_available_macros`. -/
def mergeMacros (agent : ProtocolAgent) : List MilterCommand → Macros → Macros
  | [], availableMacros => availableMacros
  | context :: contexts, availableMacros =>
      let availableMacros :=
        match agent.macros context with
        | some macros => macros ∪ availableMacros
        | none => availableMacros
      if context = agent.macroContext then availableMacros
      else mergeMacros agent contexts availableMacros

/-- `update_macro`, `milter/core/milter-protocol-agent.c:282`. -/
def updateMacro (macros : Macros) (pair : CString × Option CString) : Macros :=
  match pair.2 with
  | some value => macros.insert pair.1 (some value)
  | none => macros.erase pair.1

namespace MacroAgent

/-- `milter_protocol_agent_init`. -/
def init : MacroAgent := ⟨.init, none⟩

/-- `milter_protocol_agent_get_available_macros`, `milter/core/milter-protocol-agent.c:209`. -/
def getAvailableMacros (agent : MacroAgent) : MacroAgent × Macros :=
  match agent.availableMacros with
  | some availableMacros => (agent, availableMacros)
  | none =>
      let availableMacros := mergeMacros agent.toProtocolAgent macroSearchOrder ∅
      ({ agent with availableMacros := some availableMacros }, availableMacros)

/-- `milter_protocol_agent_get_macro`, `milter/core/milter-protocol-agent.c:185`. -/
def getMacro (agent : MacroAgent) (name : Option CString) : MacroAgent × Option CString :=
  match name with
  | none => (agent, none)
  | some name =>
      let (agent, availableMacros) := agent.getAvailableMacros
      match availableMacros.lookup name with
      | some (some value) => (agent, some value)
      | some none | none =>
          if name.bytes.head? = some 123 ∧ name.bytes.getLast? = some 125 then
            (agent, (availableMacros.lookup (.ofBytes name.bytes.tail.dropLast)).join)
          else (agent, none)

/-- `milter_protocol_agent_clear_macros`, `milter/core/milter-protocol-agent.c:249`. -/
def clearMacros (agent : MacroAgent) (macroContext : MilterCommand) : MacroAgent where
  macros := Function.update agent.macros macroContext none
  macroContext := agent.macroContext
  macrosRequests := agent.macrosRequests
  availableMacros := none

/-- The commands whose macros `milter_protocol_agent_clear_message_related_macros` clears. -/
def messageRelated : List MilterCommand :=
  [.envelopeFrom, .envelopeRecipient, .data, .header, .endOfHeader, .body, .endOfMessage]

/-- `milter_protocol_agent_clear_message_related_macros`,
`milter/core/milter-protocol-agent.c:260`. -/
def clearMessageRelatedMacros (agent : MacroAgent) : MacroAgent where
  macros := messageRelated.foldl (fun macros command => Function.update macros command none)
    agent.macros
  macroContext := agent.macroContext
  macrosRequests := agent.macrosRequests
  availableMacros := none

/-- `milter_protocol_agent_set_macro_context`, `milter/core/milter-protocol-agent.c:308`. -/
def setMacroContext (agent : MacroAgent) (macroContext : MilterCommand) : MacroAgent :=
  ⟨agent.toProtocolAgent.setMacroContext macroContext, none⟩

/-- `milter_protocol_agent_set_macros_hash_table`, `milter/core/milter-protocol-agent.c:367`. -/
def setMacrosHashTable (agent : MacroAgent) (macroContext : MilterCommand) (macros : Macros) :
    MacroAgent :=
  ⟨agent.toProtocolAgent.setMacrosHashTable macroContext macros, none⟩

/-- The macros that are kept for a command; none are kept as the empty table. -/
def macrosOf (agent : MacroAgent) (command : MilterCommand) : Macros :=
  (agent.macros command).getD ∅

/-- `ensure_macros` and `update_macro` for each of the pairs. -/
def updateMacros (agent : MacroAgent) (macroContext : MilterCommand)
    (pairs : List (CString × Option CString)) : MilterCommand → Option Macros :=
  Function.update agent.macros macroContext
    (some (pairs.foldl updateMacro (agent.macrosOf macroContext)))

/-- `milter_protocol_agent_set_macro`, `milter/core/milter-protocol-agent.c:385`. -/
def setMacro (agent : MacroAgent) (macroContext : MilterCommand) (macroName : CString)
    (macroValue : Option CString) : MacroAgent where
  macros := agent.updateMacros macroContext [(macroName, macroValue)]
  macroContext := agent.macroContext
  macrosRequests := agent.macrosRequests
  availableMacros := none

/-- `milter_protocol_agent_set_macros_valist`, `milter/core/milter-protocol-agent.c:319`: what was
merged before stays. -/
def setMacros (agent : MacroAgent) (macroContext : MilterCommand)
    (pairs : List (CString × Option CString)) : MacroAgent where
  macros := agent.updateMacros macroContext pairs
  macroContext := agent.macroContext
  macrosRequests := agent.macrosRequests
  availableMacros := agent.availableMacros

end MacroAgent

/-- The operations on the macros of an agent. -/
inductive MacroOperation where
  | setMacroContext (macroContext : MilterCommand)
  | setMacro (macroContext : MilterCommand) (macroName : CString) (macroValue : Option CString)
  | setMacros (macroContext : MilterCommand) (pairs : List (CString × Option CString))
  | setMacrosHashTable (macroContext : MilterCommand) (macros : Macros)
  | clearMacros (macroContext : MilterCommand)
  | clearMessageRelatedMacros
  | getAvailableMacros
  | getMacro (name : Option CString)

namespace MacroAgent

/-- The agent after an operation. -/
def operate (agent : MacroAgent) : MacroOperation → MacroAgent
  | .setMacroContext macroContext => agent.setMacroContext macroContext
  | .setMacro macroContext macroName macroValue =>
      agent.setMacro macroContext macroName macroValue
  | .setMacros macroContext pairs => agent.setMacros macroContext pairs
  | .setMacrosHashTable macroContext macros => agent.setMacrosHashTable macroContext macros
  | .clearMacros macroContext => agent.clearMacros macroContext
  | .clearMessageRelatedMacros => agent.clearMessageRelatedMacros
  | .getAvailableMacros => agent.getAvailableMacros.1
  | .getMacro name => (agent.getMacro name).1

/-- The commands up to the macro context, all of them where it is none of the search order. -/
def visible (macroContext : MilterCommand) : List MilterCommand → List MilterCommand
  | [] => []
  | context :: contexts =>
      if context = macroContext then [context] else context :: visible macroContext contexts

/-- The macros of the stages up to the macro context, of which a later one hides an earlier one. -/
def recomputed (agent : MacroAgent) : Macros :=
  overlay ((visible agent.macroContext macroSearchOrder).map agent.macrosOf)

/-- The table that is got is the one that the kept macros give. -/
def Coherent (agent : MacroAgent) : Prop :=
  agent.getAvailableMacros.2 = agent.recomputed

/-- What is kept for a name when the pairs were set one after the other. -/
def lastValue (pairs : List (CString × Option CString)) (name : CString) :
    Option (Option CString) :=
  (((pairs.reverse.find? fun pair => pair.1 = name).map Prod.snd).join).map some

/-- The table of an agent cannot be seen to lack the pairs: none is kept, or each name that is set
before the macro context is hidden by a later stage or keeps the value that was seen. -/
def Unseen (agent : MacroAgent) (macroContext : MilterCommand)
    (pairs : List (CString × Option CString)) : Prop :=
  agent.availableMacros = none ∨
    ∀ before after, visible agent.macroContext macroSearchOrder =
        before ++ macroContext :: after →
      ∀ name ∈ pairs.map Prod.fst,
        (∃ stage ∈ after, name ∈ agent.macrosOf stage) ∨
          (lastValue pairs name).or ((overlay (before.map agent.macrosOf)).lookup name) =
            ((agent.macrosOf macroContext).lookup name).or
              ((overlay (before.map agent.macrosOf)).lookup name)

/-- The operation leaves no table behind that misses it. -/
def Fresh (agent : MacroAgent) : MacroOperation → Prop
  | .setMacros macroContext pairs => agent.Unseen macroContext pairs
  | _ => True

section Merge

variable {agent : MacroAgent}

theorem mergeMacros_eq (contexts : List MilterCommand) (availableMacros : Macros) :
    mergeMacros agent.toProtocolAgent contexts availableMacros =
      ((visible agent.macroContext contexts).map agent.macrosOf).foldl
        (fun table layer => layer ∪ table) availableMacros := by
  induction contexts generalizing availableMacros with
  | nil => rfl
  | cons context contexts ih =>
      have hmerge : (match agent.macros context with
          | some macros => macros ∪ availableMacros
          | none => availableMacros) = agent.macrosOf context ∪ availableMacros := by
        rw [macrosOf]
        cases agent.macros context with
        | some macros => rfl
        | none => exact Finmap.empty_union.symm
      rw [mergeMacros, visible, hmerge]
      by_cases hcontext : context = agent.macroContext
      · rw [if_pos hcontext, if_pos hcontext]
        rfl
      · rw [if_neg hcontext, if_neg hcontext, List.map_cons, List.foldl_cons]
        exact ih _

/-- The loop computes the table that the kept macros give. -/
theorem mergeMacros_eq_recomputed :
    mergeMacros agent.toProtocolAgent macroSearchOrder ∅ = agent.recomputed :=
  mergeMacros_eq macroSearchOrder ∅

theorem coherent_iff :
    agent.Coherent ↔ ∀ table, agent.availableMacros = some table → table = agent.recomputed := by
  rw [Coherent, getAvailableMacros]
  cases agent.availableMacros with
  | none => simp [mergeMacros_eq_recomputed]
  | some table => simp

theorem coherent_of_none (h : agent.availableMacros = none) : agent.Coherent := by
  rw [coherent_iff, h]
  rintro table ⟨⟩

theorem coherent_getAvailableMacros (h : agent.Coherent) : agent.getAvailableMacros.1.Coherent := by
  rw [getAvailableMacros]
  cases hkept : agent.availableMacros with
  | some table => exact h
  | none => exact mergeMacros_eq_recomputed

theorem coherent_getMacro (h : agent.Coherent) (name : Option CString) :
    (agent.getMacro name).1.Coherent := by
  cases name with
  | none => exact h
  | some name =>
      have hstate : (agent.getMacro (some name)).1 = agent.getAvailableMacros.1 := by
        rw [getMacro]
        dsimp only
        split
        · rfl
        · split <;> rfl
        · split <;> rfl
      rw [hstate]
      exact coherent_getAvailableMacros h

end Merge

section Update

theorem lookup_updateMacro (macros : Macros) (pair : CString × Option CString) (name : CString) :
    (updateMacro macros pair).lookup name =
      if pair.1 = name then pair.2.map some else macros.lookup name := by
  rw [updateMacro]
  by_cases hname : pair.1 = name
  · subst hname
    cases pair.2 with
    | some value => simp
    | none => simp
  · rw [if_neg hname]
    cases pair.2 with
    | some value => exact Finmap.lookup_insert_of_ne _ (Ne.symm hname)
    | none => exact Finmap.lookup_erase_ne (Ne.symm hname)

theorem lookup_foldl_updateMacro (pairs : List (CString × Option CString)) (macros : Macros)
    (name : CString) :
    (pairs.foldl updateMacro macros).lookup name =
      if name ∈ pairs.map Prod.fst then lastValue pairs name else macros.lookup name := by
  induction pairs using List.reverseRecOn with
  | nil => rfl
  | append_singleton pairs pair ih =>
      rw [List.foldl_append, List.foldl_cons, List.foldl_nil, lookup_updateMacro, ih]
      by_cases hname : pair.1 = name
      · simp [hname, lastValue]
      · have hmem : name ∈ (pairs ++ [pair]).map Prod.fst ↔ name ∈ pairs.map Prod.fst := by
          rw [List.map_append, List.mem_append]
          simp [Ne.symm hname]
        simp only [hmem]
        simp [hname, lastValue]

theorem visible_nodup (macroContext : MilterCommand) {contexts : List MilterCommand}
    (h : contexts.Nodup) : (visible macroContext contexts).Nodup ∧
      visible macroContext contexts ⊆ contexts := by
  induction contexts with
  | nil => exact ⟨List.nodup_nil, List.Subset.refl []⟩
  | cons context contexts ih =>
      rw [List.nodup_cons] at h
      have hrest := ih h.2
      rw [visible]
      by_cases hcontext : context = macroContext
      · rw [if_pos hcontext]
        exact ⟨List.nodup_singleton context, by simp⟩
      · rw [if_neg hcontext]
        constructor
        · rw [List.nodup_cons]
          exact ⟨fun hmem => h.1 (hrest.2 hmem), hrest.1⟩
        · exact List.cons_subset_cons context hrest.2

theorem macrosOf_setMacros_of_ne (agent : MacroAgent) {macroContext command : MilterCommand}
    (pairs : List (CString × Option CString)) (h : command ≠ macroContext) :
    (agent.setMacros macroContext pairs).macrosOf command = agent.macrosOf command := by
  have hmacros : (agent.setMacros macroContext pairs).macros command = agent.macros command :=
    Function.update_of_ne h _ _
  rw [macrosOf, hmacros, macrosOf]

theorem macrosOf_setMacros_self (agent : MacroAgent) (macroContext : MilterCommand)
    (pairs : List (CString × Option CString)) :
    (agent.setMacros macroContext pairs).macrosOf macroContext =
      pairs.foldl updateMacro (agent.macrosOf macroContext) := by
  have hmacros : (agent.setMacros macroContext pairs).macros macroContext =
      some (pairs.foldl updateMacro (agent.macrosOf macroContext)) :=
    Function.update_self _ _ _
  rw [macrosOf, hmacros, Option.getD_some]

theorem map_macrosOf_setMacros (agent : MacroAgent) {macroContext : MilterCommand}
    (pairs : List (CString × Option CString)) {stages : List MilterCommand}
    (h : macroContext ∉ stages) :
    stages.map (agent.setMacros macroContext pairs).macrosOf = stages.map agent.macrosOf := by
  apply List.map_congr_left
  intro stage hstage
  apply macrosOf_setMacros_of_ne
  rintro rfl
  exact h hstage

/-- Setting the macros of a visible stage exchanges one layer. -/
theorem recomputed_setMacros_eq_iff (agent : MacroAgent) {macroContext : MilterCommand}
    (pairs : List (CString × Option CString)) {before after : List MilterCommand}
    (hsplit : visible agent.macroContext macroSearchOrder = before ++ macroContext :: after) :
    (agent.setMacros macroContext pairs).recomputed = agent.recomputed ↔
      ∀ name ∈ pairs.map Prod.fst, (∃ stage ∈ after, name ∈ agent.macrosOf stage) ∨
        (lastValue pairs name).or ((overlay (before.map agent.macrosOf)).lookup name) =
          ((agent.macrosOf macroContext).lookup name).or
            ((overlay (before.map agent.macrosOf)).lookup name) := by
  have hnodup := (@visible_nodup agent.macroContext macroSearchOrder (by decide)).1
  rw [hsplit, List.nodup_append, List.nodup_cons] at hnodup
  have hbefore : macroContext ∉ before := fun hmem =>
    hnodup.2.2 macroContext hmem macroContext List.mem_cons_self rfl
  have hcontext : (agent.setMacros macroContext pairs).macroContext = agent.macroContext := rfl
  rw [recomputed, recomputed, hcontext, hsplit, List.map_append, List.map_append, List.map_cons,
    List.map_cons, map_macrosOf_setMacros agent pairs hbefore,
    map_macrosOf_setMacros agent pairs hnodup.2.1.1, macrosOf_setMacros_self,
    overlay_exchange_iff]
  simp only [lookup_foldl_updateMacro, List.mem_map (f := agent.macrosOf), exists_exists_and_eq_and]
  constructor
  · intro h name hname
    have hkey := h name
    rw [if_pos hname] at hkey
    exact hkey
  · intro h name
    by_cases hname : name ∈ pairs.map Prod.fst
    · rw [if_pos hname]
      exact h name hname
    · rw [if_neg hname]
      exact .inr rfl

theorem recomputed_setMacros_of_hidden (agent : MacroAgent) {macroContext : MilterCommand}
    (pairs : List (CString × Option CString))
    (h : macroContext ∉ visible agent.macroContext macroSearchOrder) :
    (agent.setMacros macroContext pairs).recomputed = agent.recomputed := by
  have hcontext : (agent.setMacros macroContext pairs).macroContext = agent.macroContext := rfl
  rw [recomputed, recomputed, hcontext, map_macrosOf_setMacros agent pairs h]

/-- The table is still the right one exactly when the change cannot be seen. -/
theorem coherent_setMacros_iff (agent : MacroAgent) (macroContext : MilterCommand)
    (pairs : List (CString × Option CString)) (h : agent.Coherent) :
    (agent.setMacros macroContext pairs).Coherent ↔ agent.Unseen macroContext pairs := by
  have hkept : (agent.setMacros macroContext pairs).availableMacros = agent.availableMacros := rfl
  cases hcached : agent.availableMacros with
  | none =>
      rw [Unseen, hcached]
      exact iff_of_true (coherent_of_none (hkept.trans hcached)) (.inl rfl)
  | some table =>
      have htable := coherent_iff.mp h table hcached
      have hcoherent : (agent.setMacros macroContext pairs).Coherent ↔
          (agent.setMacros macroContext pairs).recomputed = agent.recomputed := by
        rw [coherent_iff, hkept, hcached, ← htable]
        simp only [Option.some.injEq, forall_eq']
        exact eq_comm
      rw [hcoherent, Unseen, hcached]
      constructor
      · intro heq
        apply Or.inr
        intro before after hsplit
        exact (recomputed_setMacros_eq_iff agent pairs hsplit).mp heq
      · rintro (hnone | hunseen)
        · cases hnone
        · by_cases hmem : macroContext ∈ visible agent.macroContext macroSearchOrder
          · obtain ⟨before, after, hsplit⟩ := List.append_of_mem hmem
            exact (recomputed_setMacros_eq_iff agent pairs hsplit).mpr
              (hunseen before after hsplit)
          · exact recomputed_setMacros_of_hidden agent pairs hmem

end Update

/-- One operation keeps the table right exactly when it is fresh. -/
theorem coherent_operate_iff (agent : MacroAgent) (operation : MacroOperation)
    (h : agent.Coherent) : (agent.operate operation).Coherent ↔ agent.Fresh operation := by
  cases operation with
  | setMacros macroContext pairs => exact coherent_setMacros_iff agent macroContext pairs h
  | getAvailableMacros => exact iff_of_true (coherent_getAvailableMacros h) trivial
  | getMacro name => exact iff_of_true (coherent_getMacro h name) trivial
  | _ => exact iff_of_true (coherent_of_none rfl) trivial

/-- After every operation of a run the table that is got is the one that the kept macros give,
exactly when each setting of several macros goes unseen in the table that is kept. -/
theorem coherent_along_iff (operations : List MacroOperation) :
    Along operate (fun agent operation => (agent.operate operation).Coherent) init operations ↔
      Along operate Fresh init operations := by
  apply @Along.iff_of_invariant _ _ operate (fun _ => True) Fresh init operations Coherent
  · intro agent operation _
    trivial
  · intro agent operation _
    exact coherent_operate_iff agent operation
  · trivial
  · exact coherent_of_none rfl

/-- The table got in the context of `HELO` does not have the macro that is set for it later. -/
theorem not_coherent_along_setMacros :
    ¬∀ operations : List MacroOperation,
      Along operate (fun agent operation => (agent.operate operation).Coherent) init
        operations := by
  intro h
  have hrun := h [.setMacroContext .helo, .getAvailableMacros,
    .setMacros .helo [(⟨[97], by decide⟩, some ⟨[98], by decide⟩)]]
  have hcoherent := coherent_iff.mp hrun.2.2.1 ∅ rfl
  have hlookup := congrArg (Finmap.lookup ⟨[97], by decide⟩) hcoherent
  revert hlookup
  decide

end MacroAgent

end MilterManager.Server
