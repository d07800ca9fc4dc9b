import MilterManager.Codec.Locality

/-!
# Frames that are refused loudly

A handler is disciplined on a frame of a stream when, however much of what is behind the frame is
in the buffer already, it signals a packet that is well formed and sets an error for one that is
not. For each layout of a packet this is a condition on the bytes of the frame.
-/

namespace MilterManager.Codec

open MilterManager.Core

variable {σ : Type} {behind : Bytes}

/-- A packet that is well formed is signalled without an error; one that is not sets an error. -/
def IsOrderly (wellFormed : Bool) : Except Failure (Emission σ) → Prop
  | .ok emission => emission.error = none ∧ wellFormed = true
  | .error (.error _) => wellFormed = false
  | .error _ => False

/-- What is computed from some bytes is orderly, however much of what is behind them follows. -/
def Orderly (wellFormed : Bool) (compute : Memory → Except Failure (Emission σ))
    (fields behind : Bytes) : Prop :=
  ∀ following residue, following <+: behind →
    IsOrderly wellFormed (compute (.atFrame fields following residue))

/-- What a handler does with a frame is orderly. -/
def Disciplined (handler : Handler σ) (wellFormed : Bytes → Bool) (frame behind : Bytes) : Prop :=
  Orderly (wellFormed frame) (fun memory => handler memory frame.length) frame behind

theorem orderly_of_eq {wellFormed : Bool} {compute : Memory → Except Failure (Emission σ)}
    {fields : Bytes} (result : Except Failure (Emission σ))
    (h : ∀ following residue, compute (.atFrame fields following residue) = result) :
    Orderly wellFormed compute fields behind ↔ IsOrderly wellFormed result := by
  constructor
  · intro horderly
    rw [← h [] fun _ => 0]
    exact horderly _ _ List.nil_prefix
  · intro horderly following residue _
    rw [h]
    exact horderly

theorem orderly_of_error {wellFormed : Bool} {compute : Memory → Except Failure (Emission σ)}
    {fields : Bytes} (hwell : wellFormed = false)
    (h : ∀ following residue, ∃ e, compute (.atFrame fields following residue) =
      .error (.error e)) : Orderly wellFormed compute fields behind := by
  intro following residue _
  obtain ⟨e, he⟩ := h following residue
  rw [he]
  exact hwell

theorem orderly_of_signals {wellFormed : Bool} {compute : Memory → Except Failure (Emission σ)}
    {fields : Bytes}
    (h : ∀ following residue, ∃ signal, compute (.atFrame fields following residue) =
      emit signal) : Orderly wellFormed compute fields behind ↔ wellFormed = true := by
  constructor
  · intro horderly
    obtain ⟨signal, hsignal⟩ := h [] fun _ => 0
    have hone := horderly [] (fun _ => 0) List.nil_prefix
    rw [hsignal] at hone
    exact hone.2
  · intro hwell following residue _
    obtain ⟨signal, hsignal⟩ := h following residue
    rw [hsignal]
    exact ⟨rfl, hwell⟩

theorem orderly_of_signal {wellFormed : Bool} {compute : Memory → Except Failure (Emission σ)}
    {fields : Bytes} (signal : σ)
    (h : ∀ following residue, compute (.atFrame fields following residue) = emit signal) :
    Orderly wellFormed compute fields behind ↔ wellFormed = true :=
  orderly_of_signals fun following residue => ⟨signal, h following residue⟩

theorem not_orderly_of_silent {wellFormed : Bool} {compute : Memory → Except Failure (Emission σ)}
    {fields : Bytes}
    (h : ∀ following residue, compute (.atFrame fields following residue) = .error .silent) :
    ¬ Orderly wellFormed compute fields behind := by
  rw [orderly_of_eq _ h]
  exact id

theorem not_orderly_of_overrun {wellFormed : Bool} {compute : Memory → Except Failure (Emission σ)}
    {fields : Bytes}
    (h : ∀ following residue, compute (.atFrame fields following residue) = .error .overrun) :
    ¬ Orderly wellFormed compute fields behind := by
  rw [orderly_of_eq _ h]
  exact id

theorem not_orderly_of_signal {compute : Memory → Except Failure (Emission σ)} {fields : Bytes}
    (signal : σ)
    (h : ∀ following residue, compute (.atFrame fields following residue) = emit signal) :
    ¬ Orderly false compute fields behind := by
  rw [orderly_of_signal signal h]
  exact nofun

/-- An empty frame that ends the buffer and one that another byte follows. -/
theorem orderly_nil_cons {wellFormed : Bool} {compute : Memory → Except Failure (Emission σ)}
    (byte : UInt8) (hnil : ∀ residue, IsOrderly wellFormed (compute (.atFrame [] [] residue))) :
    Orderly wellFormed compute [] (byte :: behind) ↔ Orderly wellFormed compute [byte] behind := by
  have hlonger : ∀ following residue, Memory.atFrame [] (byte :: following) residue =
      .atFrame [byte] following residue :=
    fun following residue => Memory.atFrame_append [] following residue [byte]
  constructor
  · intro horderly following residue hprefix
    have hone := horderly (byte :: following) residue (List.cons_prefix_cons.mpr ⟨rfl, hprefix⟩)
    rwa [hlonger] at hone
  · intro horderly following residue hprefix
    cases following with
    | nil => exact hnil residue
    | cons first following =>
        obtain ⟨rfl, hfollowing⟩ := List.cons_prefix_cons.mp hprefix
        rw [hlonger]
        exact horderly following residue hfollowing

theorem orderly_nil_nil {wellFormed : Bool} {compute : Memory → Except Failure (Emission σ)}
    (hnil : ∀ residue, IsOrderly wellFormed (compute (.atFrame [] [] residue))) :
    Orderly wellFormed compute [] [] := by
  intro following residue hprefix
  obtain rfl := List.prefix_nil.mp hprefix
  exact hnil residue

theorem orderly_congr {wellFormed : Bool} {handler handler' : Handler σ} {frame : Bytes}
    (h : ∀ following residue, handler (.atFrame frame following residue) frame.length =
      handler' (.atFrame frame following residue) frame.length) :
    Orderly wellFormed (fun memory => handler memory frame.length) frame behind ↔
      Orderly wellFormed (fun memory => handler' memory frame.length) frame behind := by
  simp only [Orderly, h]

/-- The bytes are one text that is not empty. -/
def isText (fields : Bytes) : Bool :=
  fields.contains 0 && fields.head? != some 0 && afterNull fields == []

theorem isText_of_notMem (fields : Bytes) (h : 0 ∉ fields) : isText fields = false := by
  simp [isText, h]

/-- The bytes are a name that is not empty and a value. -/
def isNameAndValue (fields : Bytes) : Bool :=
  fields.contains 0 && fields.head? != some 0 && (afterNull fields).contains 0 &&
    afterNull (afterNull fields) == []

theorem isNameAndValue_of_notMem (fields : Bytes) (h : 0 ∉ fields) :
    isNameAndValue fields = false := by
  simp [isNameAndValue, h]

theorem isNameAndValue_empty (after : Bytes) : isNameAndValue (0 :: after) = false := by
  simp [isNameAndValue]

theorem isNameAndValue_of_notMem_after (name after : Bytes) (h : 0 ∉ name) (hafter : 0 ∉ after) :
    isNameAndValue (name ++ 0 :: after) = false := by
  rw [isNameAndValue, afterNull_append _ _ h]
  simp [hafter]

theorem orderly_decodeSimple (signal : σ) (target : String) (tag : UInt8) (fields : Bytes) :
    Orderly (fields == []) (fun memory => decodeSimple signal target memory (tag :: fields).length)
      (tag :: fields) behind := by
  by_cases hnil : fields = []
  · subst hnil
    rw [orderly_of_signal signal]
    · rfl
    · intro following residue
      exact decodeSimple_atFrame following residue tag signal target []
  · apply orderly_of_error (by simpa using hnil)
    intro following residue
    rw [decodeSimple_atFrame, if_neg hnil]
    exact ⟨_, rfl⟩

/-- A text is orderly when it has no NUL at all or is all there is. -/
def textOrderly (fields : Bytes) : Bool := !fields.contains 0 || isText fields

theorem textOrderly_of_isText (fields : Bytes) (h : isText fields = true) :
    textOrderly fields = true := by
  rw [textOrderly, h, Bool.or_true]

theorem orderly_decodeText (signal : CString → σ) (message : String) (tag : UInt8)
    (fields : Bytes) :
    Orderly (isText fields) (fun memory => decodeText signal message memory (tag :: fields).length)
      (tag :: fields) behind ↔ textOrderly fields = true := by
  unfold textOrderly
  rcases null_cases fields with h | ⟨text, after, h, rfl⟩
  · refine ⟨fun _ => by simp [h], fun _ =>
      orderly_of_error (isText_of_notMem fields h) fun following residue => ?_⟩
    exact ⟨_, decodeText_of_notMem following residue tag signal message fields h⟩
  · by_cases hne : text = []
    · subst hne
      constructor
      · intro horderly
        exact absurd horderly (not_orderly_of_silent fun following residue =>
          decodeText_empty following residue tag signal message after)
      · intro hself
        simp [isText] at hself
    · rw [orderly_of_signal (signal ⟨text, h⟩) fun following residue =>
        decodeText_append following residue tag signal message text after h hne]
      simp

/-- A name and a value are orderly when a NUL is missing or they are all there is. -/
def nameAndValueOrderly (fields : Bytes) : Bool :=
  !fields.contains 0 || fields.head? != some 0 && !(afterNull fields).contains 0 ||
    isNameAndValue fields

theorem orderly_decodeNameAndValue (signal : CString → CString → σ) (tag : UInt8)
    (fields : Bytes) :
    Orderly (isNameAndValue fields)
      (fun memory => decodeNameAndValue signal memory (tag :: fields).length) (tag :: fields)
      behind ↔
      nameAndValueOrderly fields = true := by
  have hdecode : ∀ following residue,
      decodeNameAndValue signal (.atFrame (tag :: fields) following residue)
          (tag :: fields).length =
        decodeHeaderContent (.atFrame fields following residue) fields.length >>=
          fun content => emit (signal content.1 content.2) := by
    intro following residue
    rw [decodeNameAndValue, length_fields, Memory.advance_atFrame_cons]
  unfold nameAndValueOrderly
  rcases null_cases fields with h | ⟨name, after, h, rfl⟩
  · refine ⟨fun _ => by simp [h], fun _ =>
      orderly_of_error (isNameAndValue_of_notMem fields h) fun following residue => ?_⟩
    rw [hdecode, decodeHeaderContent_of_notMem following residue fields h]
    exact ⟨_, rfl⟩
  · by_cases hne : name = []
    · subst hne
      constructor
      · intro horderly
        refine absurd horderly (not_orderly_of_silent fun following residue => ?_)
        rw [hdecode, List.nil_append, decodeHeaderContent_empty]
        rfl
      · intro hself
        simp [isNameAndValue] at hself
    · rw [bne, head?_append_null _ _ h hne, afterNull_append _ _ h]
      rcases null_cases after with h0 | ⟨value, after, h0, rfl⟩
      · refine ⟨fun _ => by simp [h0], fun _ => orderly_of_error
          (isNameAndValue_of_notMem_after name after h h0) fun following residue => ?_⟩
        rw [hdecode, decodeHeaderContent_of_notMem_after following residue name after h hne h0]
        exact ⟨_, rfl⟩
      · rw [orderly_of_signal (signal ⟨name, h⟩ ⟨value, h0⟩) fun following residue => by
          rw [hdecode, decodeHeaderContent_append following residue name value after h hne h0]
          rfl]
        simp

theorem orderly_decodeChunk (signal : Bytes → Int → σ) (tag : UInt8) (fields : Bytes) :
    Orderly true (fun memory => decodeChunk signal memory (tag :: fields).length)
      (tag :: fields) behind := by
  rw [orderly_of_signals fun following residue =>
    ⟨_, decodeChunk_atFrame following residue tag signal fields⟩]

section Zero

variable (buffer : Memory)

theorem decodeText_zero (signal : CString → σ) (message : String) :
    ∃ e, decodeText signal message buffer 0 = .error (.error e) :=
  ⟨_, rfl⟩

theorem decodeNameAndValue_zero (signal : CString → CString → σ) :
    ∃ e, decodeNameAndValue signal buffer 0 = .error (.error e) :=
  ⟨_, rfl⟩

end Zero

/-- A negotiate packet without its three words is refused. -/
theorem orderly_decodeNegotiate_of_short {wellFormed : Bool} (handler : Handler σ)
    (continuation : Memory → Int → MilterOption → Except Failure (Emission σ))
    (hhandler : ∀ memory length,
      handler memory length = decodeNegotiate memory length >>= continuation memory length)
    (tag : UInt8) (fields : Bytes) (h : fields.length < 12) (hwell : wellFormed = false) :
    Orderly wellFormed (fun memory => handler memory (tag :: fields).length) (tag :: fields)
      behind := by
  obtain ⟨target, hshort⟩ := decodeNegotiate_of_short tag fields h
  apply orderly_of_error hwell
  intro following residue
  rw [hhandler, hshort]
  exact ⟨_, rfl⟩

/-- Behind the three words the rest of a negotiate packet decides. -/
theorem orderly_decodeNegotiate_of_length {wellFormed : Bool} (handler : Handler σ)
    (continuation : Memory → Int → MilterOption → Except Failure (Emission σ))
    (hhandler : ∀ memory length,
      handler memory length = decodeNegotiate memory length >>=
        continuation (memory.advance negotiateLength) (length - negotiateLength))
    (tag : UInt8) (fields : Bytes) (h : 12 ≤ fields.length) :
    Orderly wellFormed (fun memory => handler memory (tag :: fields).length) (tag :: fields)
        behind ↔
      Orderly wellFormed
        (fun memory => continuation memory (fields.drop 12).length (optionOf fields))
        (fields.drop 12) behind := by
  simp only [Orderly, decodeNegotiate_rest tag continuation hhandler fields h]

end MilterManager.Codec
