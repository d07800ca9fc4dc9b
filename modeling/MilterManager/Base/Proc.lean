import Mathlib.Data.List.Basic

/-!
# Programs with a state and a trace

A program reads and writes a state and leaves a trace of what it did; nothing it does can depend
on the trace. A triple speaks about the trace left so far together with the state, so that an
invariant can relate the two.
-/

namespace MilterManager.Base

universe u v w

/-- What one run of a program yields. -/
structure Outcome (σ : Type u) (ω : Type v) (α : Type w) where
  value : α
  state : σ
  trace : List ω

/-- A program over the state `σ` that leaves a trace of `ω`. -/
def Proc (σ : Type u) (ω : Type v) (α : Type w) : Type (max u v w) :=
  σ → Outcome σ ω α

namespace Proc

variable {σ : Type u} {ω : Type v} {α β : Type u}

instance : Monad (Proc σ ω) where
  pure a := fun s => ⟨a, s, []⟩
  bind m f := fun s =>
    let first := m s
    let second := f first.value first.state
    ⟨second.value, second.state, first.trace ++ second.trace⟩

/-- The current state. -/
def getState : Proc σ ω σ := fun s => ⟨s, s, []⟩

/-- Change the state. -/
def update (f : σ → σ) : Proc σ ω PUnit.{u + 1} := fun s => ⟨⟨⟩, f s, []⟩

/-- Leave an entry in the trace; it may record the state it was left in. -/
def record (entry : σ → ω) : Proc σ ω PUnit.{u + 1} := fun s => ⟨⟨⟩, s, [entry s]⟩

/-- Run a program when a condition holds. -/
def when (c : Prop) [Decidable c] (m : Proc σ ω PUnit.{u + 1}) : Proc σ ω PUnit.{u + 1} :=
  if c then m else pure ⟨⟩

/-- Run a program for every element of a list, in order. -/
def each {γ : Type w} (body : γ → Proc σ ω PUnit.{u + 1}) : List γ → Proc σ ω PUnit.{u + 1}
  | [] => pure ⟨⟩
  | x :: xs => do
      body x
      each body xs

@[simp] theorem pure_apply (a : α) (s : σ) : (pure a : Proc σ ω α) s = ⟨a, s, []⟩ := rfl

@[simp] theorem bind_apply (m : Proc σ ω α) (f : α → Proc σ ω β) (s : σ) :
    (m >>= f) s =
      ⟨(f (m s).value (m s).state).value, (f (m s).value (m s).state).state,
        (m s).trace ++ (f (m s).value (m s).state).trace⟩ := rfl

@[simp] theorem getState_apply (s : σ) : (getState : Proc σ ω σ) s = ⟨s, s, []⟩ := rfl

@[simp] theorem update_apply (f : σ → σ) (s : σ) :
    (update f : Proc σ ω PUnit.{u + 1}) s = ⟨⟨⟩, f s, []⟩ := rfl

@[simp] theorem record_apply (entry : σ → ω) (s : σ) :
    (record entry : Proc σ ω PUnit.{u + 1}) s = ⟨⟨⟩, s, [entry s]⟩ := rfl

@[simp] theorem each_nil {γ : Type w} (body : γ → Proc σ ω PUnit.{u + 1}) :
    each body [] = pure ⟨⟩ := rfl

@[simp] theorem each_cons {γ : Type w} (body : γ → Proc σ ω PUnit.{u + 1}) (x : γ) (xs : List γ) :
    each body (x :: xs) = body x >>= fun _ => each body xs := rfl

/-- A loop over two lists is one loop after the other. -/
theorem each_append {γ : Type w} (body : γ → Proc σ ω PUnit.{u + 1}) (xs ys : List γ) (s : σ) :
    each body (xs ++ ys) s =
      ⟨⟨⟩, (each body ys (each body xs s).state).state,
        (each body xs s).trace ++ (each body ys (each body xs s).state).trace⟩ := by
  induction xs generalizing s with
  | nil => simp
  | cons x xs ih => simp [ih, List.append_assoc]

/-- A loop whose rounds do nothing does nothing. -/
theorem each_of_idle {γ : Type w} {body : γ → Proc σ ω PUnit.{u + 1}} {xs : List γ} {s : σ}
    (h : ∀ x ∈ xs, body x s = ⟨⟨⟩, s, []⟩) : each body xs s = ⟨⟨⟩, s, []⟩ := by
  induction xs with
  | nil => rfl
  | cons x xs ih =>
      rw [each_cons, bind_apply, h x List.mem_cons_self]
      exact ih fun y hy => h y (List.mem_cons_of_mem _ hy)

theorem each_map {γ δ : Type w} (body : γ → Proc σ ω PUnit.{u + 1}) (f : δ → γ) (xs : List δ) :
    each body (xs.map f) = each (fun x => body (f x)) xs := by
  induction xs with
  | nil => rfl
  | cons x xs ih => rw [List.map_cons, each_cons, each_cons, ih]

/-- From a past and a state with `pre` the program reaches a past and a state with `post`. -/
def Triple (pre : List ω → σ → Prop) (m : Proc σ ω α) (post : α → List ω → σ → Prop) : Prop :=
  ∀ past s, pre past s → post (m s).value (past ++ (m s).trace) (m s).state

/-- The program keeps an invariant of past and state. -/
def Keeps (inv : List ω → σ → Prop) (m : Proc σ ω α) : Prop :=
  Triple inv m fun _ => inv

section Rules

variable {pre : List ω → σ → Prop} {post : β → List ω → σ → Prop}
variable {inv : List ω → σ → Prop}

theorem Triple.pure {post : α → List ω → σ → Prop} {a : α}
    (h : ∀ past s, pre past s → post a past s) :
    Triple pre (pure a : Proc σ ω α) post := by
  intro past s hpre
  simpa using h past s hpre

theorem Triple.bind {m : Proc σ ω α} {f : α → Proc σ ω β} (mid : α → List ω → σ → Prop)
    (hm : Triple pre m mid) (hf : ∀ a, Triple (mid a) (f a) post) :
    Triple pre (m >>= f) post := by
  intro past s hpre
  have := hf _ _ _ (hm past s hpre)
  simpa [List.append_assoc] using this

/-- What keeps the precondition may come first. -/
theorem Triple.after {m : Proc σ ω α} {f : α → Proc σ ω β} (hm : Keeps pre m)
    (hf : ∀ a, Triple pre (f a) post) : Triple pre (m >>= f) post :=
  Triple.bind _ hm hf

theorem Triple.getState {f : σ → Proc σ ω β}
    (hf : ∀ s, Triple (fun past t => pre past t ∧ t = s) (f s) post) :
    Triple pre (getState >>= f) post := by
  intro past s hpre
  simpa using hf s past s ⟨hpre, rfl⟩

theorem Triple.update {post : PUnit → List ω → σ → Prop} {f : σ → σ}
    (h : ∀ past s, pre past s → post ⟨⟩ past (f s)) :
    Triple pre (update f : Proc σ ω PUnit.{u + 1}) post := by
  intro past s hpre
  simpa using h past s hpre

theorem Triple.record {post : PUnit → List ω → σ → Prop} {entry : σ → ω}
    (h : ∀ past s, pre past s → post ⟨⟩ (past ++ [entry s]) s) :
    Triple pre (record entry : Proc σ ω PUnit.{u + 1}) post := by
  intro past s hpre
  simpa using h past s hpre

theorem Triple.consequence {post' : α → List ω → σ → Prop} {post : α → List ω → σ → Prop}
    {pre' : List ω → σ → Prop} {m : Proc σ ω α} (h : Triple pre' m post')
    (hpre : ∀ past s, pre past s → pre' past s)
    (hpost : ∀ a past s, post' a past s → post a past s) : Triple pre m post := by
  intro past s hp
  exact hpost _ _ _ (h past s (hpre past s hp))

theorem Triple.weaken {post : α → List ω → σ → Prop} {pre' : List ω → σ → Prop}
    {m : Proc σ ω α} (h : Triple pre' m post) (hpre : ∀ past s, pre past s → pre' past s) :
    Triple pre m post :=
  h.consequence hpre fun _ _ _ h => h

theorem Triple.ite {post : α → List ω → σ → Prop} {c : Prop} [Decidable c] {m n : Proc σ ω α}
    (hm : c → Triple pre m post) (hn : ¬c → Triple pre n post) :
    Triple pre (if c then m else n) post := by
  split
  · next h => exact hm h
  · next h => exact hn h

/-- A condition on the trace that every earlier trace meets as well may be assumed throughout. -/
theorem Triple.assuming {C : List ω → Prop} {post : α → List ω → σ → Prop} {m : Proc σ ω α}
    (hC : ∀ front back, C (front ++ back) → C front)
    (h : Triple (fun past s => C past ∧ pre past s) m fun a past s => C past → post a past s) :
    Triple (fun past s => C past → pre past s) m fun a past s => C past → post a past s := by
  intro past s hpre hmet
  have hpast := hC _ _ hmet
  exact h past s ⟨hpast, hpre hpast⟩ hmet

theorem Keeps.pure (a : α) : Keeps inv (pure a : Proc σ ω α) :=
  Triple.pure fun _ _ h => h

theorem Keeps.bind {m : Proc σ ω α} {f : α → Proc σ ω β} (hm : Keeps inv m)
    (hf : ∀ a, Keeps inv (f a)) : Keeps inv (m >>= f) :=
  Triple.bind _ hm hf

theorem Keeps.getState : Keeps inv (getState : Proc σ ω σ) := by
  intro past s h
  simpa using h

theorem Keeps.update {f : σ → σ} (h : ∀ past s, inv past s → inv past (f s)) :
    Keeps inv (update f : Proc σ ω PUnit.{u + 1}) :=
  Triple.update h

theorem Keeps.record {entry : σ → ω} (h : ∀ past s, inv past s → inv (past ++ [entry s]) s) :
    Keeps inv (record entry : Proc σ ω PUnit.{u + 1}) :=
  Triple.record h

theorem Keeps.ite {c : Prop} [Decidable c] {m n : Proc σ ω α} (hm : Keeps inv m)
    (hn : Keeps inv n) : Keeps inv (if c then m else n) :=
  Triple.ite (fun _ => hm) fun _ => hn

theorem Keeps.when {c : Prop} [Decidable c] {m : Proc σ ω PUnit.{u + 1}} (hm : c → Keeps inv m) :
    Keeps inv (when c m) :=
  Triple.ite hm fun _ => Keeps.pure _

theorem Keeps.each {γ : Type w} {body : γ → Proc σ ω PUnit.{u + 1}} (xs : List γ)
    (h : ∀ x ∈ xs, Keeps inv (body x)) : Keeps inv (each body xs) := by
  induction xs with
  | nil => exact Keeps.pure _
  | cons x xs ih =>
      exact Keeps.bind (h x (by simp)) fun _ => ih fun y hy => h y (by simp [hy])

/-- What was true of an earlier trace and stays so is kept besides. -/
theorem Keeps.and_past {P : List ω → Prop} {m : Proc σ ω α}
    (hP : ∀ front back, P front → P (front ++ back)) (hm : Keeps inv m) :
    Keeps (fun past s => inv past s ∧ P past) m := by
  intro past s h
  exact ⟨hm past s h.1, hP past _ h.2⟩

end Rules

/-- A property of programs that their constructs keep. What reads the state must not tell the states
apart that `blur` turns into one another; programs that do are left to whoever has the property. -/
structure Law (ω : Type v) {τ : Type w} (blur : τ → σ → σ) where
  Holds : ∀ {α : Type u}, Proc σ ω α → Prop
  ofPure : ∀ {α : Type u} (a : α), Holds (pure a)
  ofBind : ∀ {α β : Type u} {m : Proc σ ω α} {f : α → Proc σ ω β}, Holds m → (∀ a, Holds (f a)) →
    Holds (m >>= f)
  ofGetState : ∀ {α : Type u} {f : σ → Proc σ ω α}, (∀ blurred s, f (blur blurred s) = f s) →
    (∀ s, Holds (f s)) → Holds (getState >>= f)

namespace Law

variable {τ : Type w} {blur : τ → σ → σ}

/-- To keep an invariant is such a property, whatever is read. -/
@[reducible] def keeps (blur : τ → σ → σ) (inv : List ω → σ → Prop) : Law ω blur where
  Holds := Keeps inv
  ofPure := Keeps.pure
  ofBind := Keeps.bind
  ofGetState _ hf := Keeps.getState.bind hf

variable {law : Law ω blur}

theorem Holds.pure (a : α) : law.Holds (pure a) :=
  law.ofPure a

theorem Holds.bind {m : Proc σ ω α} {f : α → Proc σ ω β} (hm : law.Holds m)
    (hf : ∀ a, law.Holds (f a)) : law.Holds (m >>= f) :=
  law.ofBind hm hf

theorem Holds.getState {f : σ → Proc σ ω α} (hblur : ∀ blurred s, f (blur blurred s) = f s)
    (hf : ∀ s, law.Holds (f s)) : law.Holds (getState >>= f) :=
  law.ofGetState hblur hf

theorem Holds.ite {c : Prop} [Decidable c] {m n : Proc σ ω α} (hm : law.Holds m)
    (hn : law.Holds n) : law.Holds (if c then m else n) := by
  split
  · exact hm
  · exact hn

theorem Holds.when {c : Prop} [Decidable c] {m : Proc σ ω PUnit.{u + 1}}
    (hm : c → law.Holds m) : law.Holds (when c m) := by
  unfold Proc.when
  split
  · next hc => exact hm hc
  · exact law.ofPure _

theorem Holds.each {γ : Type w} {body : γ → Proc σ ω PUnit.{u + 1}} (xs : List γ)
    (h : ∀ x ∈ xs, law.Holds (body x)) : law.Holds (each body xs) := by
  induction xs with
  | nil => exact law.ofPure _
  | cons x xs ih =>
      exact law.ofBind (h x (by simp)) fun _ => ih fun y hy => h y (by simp [hy])

end Law

/-- Two programs that yield the same value and keep their states in a relation. -/
def Related (R : σ → σ → Prop) (m n : Proc σ ω α) : Prop :=
  ∀ s t, R s t → (m s).value = (n t).value ∧ R (m s).state (n t).state

section Related

variable {R : σ → σ → Prop}

theorem Related.pure (a : α) : Related R (pure a : Proc σ ω α) (pure a) :=
  fun _ _ h => ⟨rfl, h⟩

theorem Related.bind {m n : Proc σ ω α} {f g : α → Proc σ ω β} (hm : Related R m n)
    (hf : ∀ a, Related R (f a) (g a)) : Related R (m >>= f) (n >>= g) := by
  intro s t h
  have hfirst := hm s t h
  have hsecond := hf (m s).value _ _ hfirst.2
  rw [bind_apply, bind_apply, ← hfirst.1]
  exact hsecond

theorem Related.getState {f g : σ → Proc σ ω β} (hf : ∀ s t, R s t → Related R (f s) (g t)) :
    Related R (getState >>= f) (getState >>= g) :=
  fun s t h => hf s t h s t h

theorem Related.update {f g : σ → σ} (h : ∀ s t, R s t → R (f s) (g t)) :
    Related R (update f : Proc σ ω PUnit.{u + 1}) (update g) :=
  fun s t hR => ⟨rfl, h s t hR⟩

end Related

end Proc

end MilterManager.Base
