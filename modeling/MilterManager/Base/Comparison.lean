import MilterManager.Base.Proc
import MilterManager.Base.Runs

/-!
# Programs side by side

Two programs run from states that agree. What the first one does is added to a history; as long as
every entry of its trace meets a condition, both yield the same value in states that agree again,
the same is seen of both, and what is owed for each entry is there. While something is pending in
the history, nothing but that has happened to a part of the state.
-/

namespace MilterManager.Base

universe u v w x y

/-- What two runs side by side are compared by. -/
structure Comparison (σ : Type u) (ω : Type v) (η : Type w) (ε : Type x) where
  next : η → ω → η
  met : η → ω → Prop
  owed : η → ω → Prop
  seen : ω → Option ε
  agrees : η → σ → σ → Prop
  pending : η → Prop
  frame : σ → σ → Prop
  frame_refl : ∀ s, frame s s
  frame_trans : ∀ {r s t}, frame r s → frame s t → frame r t

/-- What is done first comes first in the trace. -/
def Outcome.after {σ : Type u} {ω : Type v} {α : Type w} (front : List ω) (o : Outcome σ ω α) :
    Outcome σ ω α :=
  { o with trace := front ++ o.trace }

namespace Comparison

variable {σ : Type u} {ω : Type v} {η : Type w} {ε : Type x} {α β : Type u}
variable (C : Comparison σ ω η ε)

/-- The history behind a trace. -/
def history (h : η) (trace : List ω) : η := trace.foldl C.next h

@[simp] theorem history_nil (h : η) : C.history h [] = h := rfl

@[simp] theorem history_cons (h : η) (entry : ω) (trace : List ω) :
    C.history h (entry :: trace) = C.history (C.next h entry) trace := rfl

@[simp] theorem history_append (h : η) (front back : List ω) :
    C.history h (front ++ back) = C.history (C.history h front) back := List.foldl_append

/-- Every entry meets the condition. -/
def Met (h : η) (trace : List ω) : Prop := Along C.next C.met h trace

theorem met_append {h : η} {front back : List ω} :
    C.Met h (front ++ back) ↔ C.Met h front ∧ C.Met (C.history h front) back :=
  Along.append

/-- The outcomes of both programs fit together. -/
structure Yields (h : η) (o o' : Outcome σ ω α) : Prop where
  value : o.value = o'.value
  agrees : C.agrees (C.history h o.trace) o.state o'.state
  owed : Along C.next C.owed h o.trace
  seen : o.trace.filterMap C.seen = o'.trace.filterMap C.seen

/-- Nothing has happened since. -/
structure Frames (h : η) (s t : σ) (o o' : Outcome σ ω α) : Prop where
  history : C.history h o.trace = h
  first : C.frame s o.state
  second : C.frame t o'.state

/-- The programs fit together in two states. -/
def Matches (h : η) (s t : σ) (m n : Proc σ ω α) : Prop :=
  C.Met h (m s).trace → C.Yields h (m s) (n t)

/-- What is pending was so before. -/
def Framed (h : η) (s t : σ) (m n : Proc σ ω α) : Prop :=
  C.Met h (m s).trace → C.pending (C.history h (m s).trace) → C.Frames h s t (m s) (n t)

/-- The programs fit together and leave nothing pending. -/
def Settles (h : η) (s t : σ) (m n : Proc σ ω α) : Prop :=
  C.Matches h s t m n ∧ (C.Met h (m s).trace → ¬C.pending (C.history h (m s).trace))

/-- The programs fit together in all states that agree. -/
def Simulates (m n : Proc σ ω α) : Prop :=
  ∀ h s t, C.agrees h s t → C.Matches h s t m n ∧ C.Framed h s t m n

section Rules

variable {C} {h : η} {s t : σ} {m n : Proc σ ω α} {f g : α → Proc σ ω β}

theorem Matches.pure (hagrees : C.agrees h s t) (a : α) :
    C.Matches h s t (pure a : Proc σ ω α) (pure a) :=
  fun _ => ⟨rfl, hagrees, trivial, rfl⟩

theorem Matches.bind (hm : C.Matches h s t m n)
    (hf : C.Met h (m s).trace → C.Yields h (m s) (n t) →
      C.Matches (C.history h (m s).trace) (m s).state (n t).state (f (m s).value)
        (g (m s).value)) :
    C.Matches h s t (m >>= f) (n >>= g) := by
  intro hmet
  obtain ⟨hfront, hback⟩ := C.met_append.mp hmet
  have hfirst := hm hfront
  have hsecond := hf hfront hfirst hback
  rw [Proc.bind_apply, Proc.bind_apply, ← hfirst.value]
  exact
    { value := hsecond.value
      agrees := by
        rw [history_append]
        exact hsecond.agrees
      owed := Along.append.mpr ⟨hfirst.owed, hsecond.owed⟩
      seen := by
        rw [List.filterMap_append, List.filterMap_append, hfirst.seen, hsecond.seen] }

/-- Some steps are made first. -/
theorem Matches.after {m' n' : Proc σ ω α} {s' t' : σ} (front front' : List ω)
    (hm : m s = (m' s').after front) (hn : n t = (n' t').after front')
    (hseen : front.filterMap C.seen = front'.filterMap C.seen)
    (howed : C.Met h front → Along C.next C.owed h front)
    (hrest : C.Met h front → C.Matches (C.history h front) s' t' m' n') : C.Matches h s t m n := by
  intro hmet
  rw [hm] at hmet
  obtain ⟨hfront, hback⟩ := C.met_append.mp hmet
  have hsecond := hrest hfront hback
  rw [hm, hn]
  exact
    { value := hsecond.value
      agrees := by
        rw [Outcome.after, history_append]
        exact hsecond.agrees
      owed := Along.append.mpr ⟨howed hfront, hsecond.owed⟩
      seen := by
        rw [Outcome.after, Outcome.after, List.filterMap_append, List.filterMap_append, hseen,
          hsecond.seen] }

theorem Settles.pure (hagrees : C.agrees h s t) (hpending : ¬C.pending h) (a : α) :
    C.Settles h s t (pure a : Proc σ ω α) (pure a) :=
  ⟨.pure hagrees a, fun _ => hpending⟩

theorem Settles.bind (hm : C.Matches h s t m n)
    (hf : C.Met h (m s).trace → C.Yields h (m s) (n t) →
      C.Settles (C.history h (m s).trace) (m s).state (n t).state (f (m s).value)
        (g (m s).value)) :
    C.Settles h s t (m >>= f) (n >>= g) := by
  refine ⟨hm.bind fun hmet hyields => (hf hmet hyields).1, ?_⟩
  intro hmet
  obtain ⟨hfront, hback⟩ := C.met_append.mp hmet
  rw [Proc.bind_apply, history_append]
  exact (hf hfront (hm hfront)).2 hback

theorem Settles.after {m' n' : Proc σ ω α} {s' t' : σ} (front front' : List ω)
    (hm : m s = (m' s').after front) (hn : n t = (n' t').after front')
    (hseen : front.filterMap C.seen = front'.filterMap C.seen)
    (howed : C.Met h front → Along C.next C.owed h front)
    (hrest : C.Met h front → C.Settles (C.history h front) s' t' m' n') : C.Settles h s t m n := by
  refine ⟨.after front front' hm hn hseen howed fun hmet => (hrest hmet).1, ?_⟩
  intro hmet
  rw [hm] at hmet ⊢
  obtain ⟨hfront, hback⟩ := C.met_append.mp hmet
  rw [Outcome.after, history_append]
  exact (hrest hfront).2 hback

theorem Settles.of_eq {m' n' : Proc σ ω α} {s' t' : σ} (hm : m s = m' s') (hn : n t = n' t')
    (h' : C.Settles h s' t' m' n') : C.Settles h s t m n := by
  rw [Settles, Matches] at h' ⊢
  rw [hm, hn]
  exact h'

/-- An entry comes first. -/
theorem Settles.recorded {entry : σ → ω} {f g : PUnit → Proc σ ω β}
    (hseen : C.seen (entry s) = C.seen (entry t))
    (howed : C.met h (entry s) → C.owed h (entry s))
    (hrest : C.met h (entry s) → C.Settles (C.next h (entry s)) s t (f ⟨⟩) (g ⟨⟩)) :
    C.Settles h s t (Proc.record entry >>= f) (Proc.record entry >>= g) := by
  have hrun (f : PUnit → Proc σ ω β) (r : σ) :
      (Proc.record entry >>= f) r = (f ⟨⟩ r).after [entry r] := rfl
  apply Settles.after [entry s] [entry t] (hrun f s) (hrun g t)
  · simp only [List.filterMap_cons, hseen]
  · exact fun hmet => ⟨howed hmet.1, trivial⟩
  · exact fun hmet => hrest hmet.1

theorem Framed.bind (hmatches : C.Matches h s t m n) (hm : C.Framed h s t m n)
    (hf : C.Framed (C.history h (m s).trace) (m s).state (n t).state (f (m s).value)
      (g (m s).value)) :
    C.Framed h s t (m >>= f) (n >>= g) := by
  intro hmet hpending
  obtain ⟨hfront, hback⟩ := C.met_append.mp hmet
  rw [Proc.bind_apply, history_append] at hpending
  have hsecond := hf hback hpending
  have hvalue := (hmatches hfront).value
  rw [hsecond.history] at hpending
  have hfirst := hm hfront hpending
  rw [Proc.bind_apply, Proc.bind_apply, ← hvalue]
  exact
    { history := by rw [history_append, hsecond.history, hfirst.history]
      first := C.frame_trans hfirst.first hsecond.first
      second := C.frame_trans hfirst.second hsecond.second }

namespace Simulates

theorem of_settles (hall : ∀ h s t, C.agrees h s t → C.Settles h s t m n) : C.Simulates m n :=
  fun h s t hagrees =>
    ⟨(hall h s t hagrees).1, fun hmet hpending => absurd hpending ((hall h s t hagrees).2 hmet)⟩

/-- Where nothing was pending, nothing is pending after programs that fit together. -/
theorem settles (hm : C.Simulates m n) (hagrees : C.agrees h s t) (hpending : ¬C.pending h) :
    C.Settles h s t m n := by
  refine ⟨(hm h s t hagrees).1, ?_⟩
  intro hmet hstill
  have hsame := ((hm h s t hagrees).2 hmet hstill).history
  rw [hsame] at hstill
  exact hpending hstill

theorem pure (a : α) : C.Simulates (pure a : Proc σ ω α) (pure a) :=
  fun _ s t hagrees =>
    ⟨.pure hagrees a, fun _ _ => ⟨rfl, C.frame_refl s, C.frame_refl t⟩⟩

theorem bind (hm : C.Simulates m n) (hf : ∀ a, C.Simulates (f a) (g a)) :
    C.Simulates (m >>= f) (n >>= g) := by
  intro h s t hagrees
  obtain ⟨hmatches, hframed⟩ := hm h s t hagrees
  constructor
  · apply hmatches.bind
    intro _ hyields
    exact (hf _ _ _ _ hyields.agrees).1
  · intro hmet hpending
    have hfront := (C.met_append.mp hmet).1
    exact Framed.bind hmatches hframed (hf _ _ _ _ (hmatches hfront).agrees).2 hmet hpending

theorem update {f : σ → σ} (hagrees : ∀ h s t, C.agrees h s t → C.agrees h (f s) (f t))
    (hframe : ∀ s, C.frame s (f s)) : C.Simulates (Proc.update f) (Proc.update f) :=
  fun h s t hst =>
    ⟨fun _ => ⟨rfl, hagrees h s t hst, trivial, rfl⟩, fun _ _ => ⟨rfl, hframe s, hframe t⟩⟩

/-- An entry that the history does not know of. -/
theorem record {entry : σ → ω} (hnext : ∀ h s, C.next h (entry s) = h)
    (howed : ∀ h s, C.owed h (entry s))
    (hseen : ∀ h s t, C.agrees h s t → C.seen (entry s) = C.seen (entry t)) :
    C.Simulates (Proc.record entry) (Proc.record entry) := by
  intro h s t hagrees
  constructor
  · intro _
    exact
      { value := rfl
        agrees := by
          rw [Proc.record_apply, history_cons, hnext]
          exact hagrees
        owed := ⟨howed h s, trivial⟩
        seen := by
          simp only [Proc.record_apply, List.filterMap_cons, hseen h s t hagrees] }
  · intro _ _
    exact
      { history := by
          rw [Proc.record_apply, history_cons, hnext]
          rfl
        first := C.frame_refl s
        second := C.frame_refl t }

theorem getState {τ : Type y} {blur : τ → σ → σ}
    (hblur : ∀ h s t, C.agrees h s t → ∃ blurred, t = blur blurred s) {f : σ → Proc σ ω α}
    (hread : ∀ blurred s, f (blur blurred s) = f s) (hf : ∀ s, C.Simulates (f s) (f s)) :
    C.Simulates (Proc.getState >>= f) (Proc.getState >>= f) := by
  intro h s t hagrees
  obtain ⟨blurred, ht⟩ := hblur h s t hagrees
  have hsame : f t = f s := by
    rw [ht]
    exact hread blurred s
  have hrun (r : σ) : (Proc.getState >>= f : Proc σ ω α) r = f r r := by
    simp
  have hboth := hf s h s t hagrees
  rw [Matches, Framed] at hboth ⊢
  rw [hrun, hrun, hsame]
  exact hboth

end Simulates

end Rules

/-- To fit together with itself is a property that the constructs of programs keep. -/
def law {τ : Type y} {blur : τ → σ → σ}
    (hblur : ∀ h s t, C.agrees h s t → ∃ blurred, t = blur blurred s) : Proc.Law ω blur where
  Holds m := C.Simulates m m
  ofPure := Simulates.pure
  ofBind := Simulates.bind
  ofGetState := Simulates.getState hblur

end Comparison

end MilterManager.Base
