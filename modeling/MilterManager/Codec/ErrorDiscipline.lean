import Mathlib.Data.List.TakeWhile
import MilterManager.Codec.ChunkInvariance
import MilterManager.Codec.CommandDiscipline
import MilterManager.Codec.ReplyDiscipline

/-!
# The error of a malformed frame

When the feeder of a decoder learns of the first malformed frame of its stream: the condition is
one on that frame and on the bytes behind it.
-/

namespace MilterManager.Codec

open MilterManager.Base MilterManager.Core

section Handler

variable {σ : Type}

/-- The error that `cb_reader_flow`, `milter/core/milter-agent.c:377`, emits for the bytes it feeds;
it does not look at the result of the call. -/
def Decoding.emittedError (decoding : Decoding σ) : Option DecoderError := decoding.error

/-- A run over these frames tells what has to be known of them. -/
structure Tells (wellFormed : Bytes → Bool) (contents : List Bytes) (run : List (Decoding σ)) :
    Prop where
  /-- A call returns `FALSE` exactly when it sets an error. -/
  result : ∀ decoding ∈ run, decoding.outcome = .success ∧ decoding.error = none ∨
    decoding.outcome = .failure ∧ decoding.error.isSome = true
  /-- Signals are emitted only for the frames in front of the first malformed one. -/
  signals : (run.flatMap (·.signals)).length ≤ (contents.takeWhile wellFormed).length
  /-- A malformed frame makes a call fail, and nothing else does. -/
  failure : (∃ decoding ∈ run, decoding.outcome = .failure) ↔
    ∃ frame ∈ contents, wellFormed frame = false
  /-- No call behind a failure emits a signal. -/
  silence : ∀ before decoding after, run = before ++ decoding :: after →
    decoding.outcome ≠ .success → ∀ later ∈ after, later.signals = []
  /-- The feeder learns of a malformed frame. -/
  learns : (∃ decoding ∈ run, decoding.emittedError.isSome = true) ↔
    ∃ frame ∈ contents, wellFormed frame = false

variable (handler : Handler σ) (wellFormed : Bytes → Bool)

/-- Every way of feeding the stream tells what has to be known of its frames. -/
def ErrorDiscipline (stream : Bytes) : Prop :=
  ∀ calls : List Call, fed calls = stream →
    Tells wellFormed (frames stream) (Decoder.init.decodeAll handler calls)

/-- The first malformed frame of the stream, if there is one, is refused with an error, and no frame
up to it has a length that is negative as `gint32`. -/
def RefusesMalformed (isDisciplined : Bytes → Bytes → Bool) (stream : Bytes) : Prop :=
  ∀ before malformed behind, FrameAt stream before malformed behind →
    (∀ frame ∈ before, wellFormed frame = true) → wellFormed malformed = false →
      isDisciplined behind malformed = true ∧
        ∀ frame ∈ before ++ [malformed], frame.length < lengthLimit

variable {handler wellFormed} {isDisciplined : Bytes → Bytes → Bool}
  (hdisciplined : ∀ frame behind,
    Disciplined handler wellFormed frame behind ↔ isDisciplined behind frame = true)
  (hwell : ∀ frame behind, wellFormed frame = true → isDisciplined behind frame = true)

include hdisciplined hwell in
theorem RefusesMalformed.disciplined {stream frame rest : Bytes}
    (h : RefusesMalformed wellFormed isDisciplined stream)
    (hnext : nextFrame stream = some (frame, rest)) :
    Disciplined handler wellFormed frame rest := by
  rw [hdisciplined]
  cases hframe : wellFormed frame with
  | true => exact hwell frame rest hframe
  | false => exact (h [] frame rest (.here hnext) (by simp) hframe).1

theorem RefusesMalformed.rest {stream frame rest : Bytes}
    (h : RefusesMalformed wellFormed isDisciplined stream)
    (hnext : nextFrame stream = some (frame, rest)) (hframe : wellFormed frame = true) :
    RefusesMalformed wellFormed isDisciplined rest := by
  intro before malformed behind hat hbefore hmalformed
  obtain ⟨hrefused, hlength⟩ := h (frame :: before) malformed behind (.later hnext hat)
    (List.forall_mem_cons.mpr ⟨hframe, hbefore⟩) hmalformed
  exact ⟨hrefused, fun content hcontent => hlength content (List.mem_cons_of_mem _ hcontent)⟩

/-- All frames of the stream up to the rest are well formed; there are so many. -/
def Passes (wellFormed : Bytes → Bool) (stream rest : Bytes) (count : Nat) : Prop :=
  ∃ passed, passed.length = count ∧ (∀ frame ∈ passed, wellFormed frame = true) ∧
    frames stream = passed ++ frames rest

theorem Passes.cons {stream frame rest left : Bytes} {count : Nat}
    (h : Passes wellFormed rest left count) (hnext : nextFrame stream = some (frame, rest))
    (hframe : wellFormed frame = true) : Passes wellFormed stream left (count + 1) := by
  obtain ⟨passed, rfl, hpassed, hframes⟩ := h
  refine ⟨frame :: passed, rfl, List.forall_mem_cons.mpr ⟨hframe, hpassed⟩, ?_⟩
  rw [frames_of_some hnext, hframes, List.cons_append]

/-- What a call over bytes of a stream does whose first malformed frame is refused with an error:
it passes over well formed frames and waits, or it fails at the malformed one. -/
inductive Told (wellFormed : Bytes → Bool) (isDisciplined : Bytes → Bytes → Bool)
    (stream more : Bytes) (signals : Nat) (decoding : Decoding σ) : Prop where
  | waits {left : Bytes} {count : Nat} (houtcome : decoding.outcome = .success)
      (herror : decoding.error = none) (hholds : decoding.decoder.Holds left)
      (hwaits : decoding.decoder.Waits)
      (hpasses : Passes wellFormed (stream ++ more) (left ++ more) count)
      (hsignals : decoding.signals.length = signals + count)
      (hrest : RefusesMalformed wellFormed isDisciplined (left ++ more))
  | fails {left malformed rest : Bytes} {count : Nat} (houtcome : decoding.outcome = .failure)
      (herror : decoding.error.isSome = true) (hstate : decoding.decoder.state = .error)
      (hpasses : Passes wellFormed (stream ++ more) left count)
      (hnext : nextFrame left = some (malformed, rest)) (hmalformed : wellFormed malformed = false)
      (hsignals : decoding.signals.length = signals + count)

theorem Told.cons {stream frame rest more : Bytes} {signals : Nat} {decoding : Decoding σ}
    (h : Told wellFormed isDisciplined rest more (signals + 1) decoding)
    (hnext : nextFrame stream = some (frame, rest)) (hframe : wellFormed frame = true) :
    Told wellFormed isDisciplined stream more signals decoding := by
  have hmore := nextFrame_append hnext more
  cases h with
  | waits houtcome herror hholds hwaits hpasses hsignals hrest =>
      exact .waits houtcome herror hholds hwaits (hpasses.cons hmore hframe) (by omega) hrest
  | fails houtcome herror hstate hpasses hnext hmalformed hsignals =>
      exact .fails houtcome herror hstate (hpasses.cons hmore hframe) hnext hmalformed (by omega)

include hdisciplined hwell in
theorem Walk.told {residue : Residue} {pending : Bytes} {signals : List σ}
    {error : Option DecoderError} {decoding : Decoding σ}
    (h : Walk handler residue pending signals error decoding) (more : Bytes) (hnone : error = none)
    (hrefuses : RefusesMalformed wellFormed isDisciplined (pending ++ more)) :
    Told wellFormed isDisciplined pending more signals.length decoding := by
  induction h with
  | waits decoder hholds hwaits =>
      exact .waits rfl hnone hholds hwaits ⟨[], rfl, by simp, rfl⟩ rfl hrefuses
  | @accepts pending frame rest signals error decoding emission buffer hnext hlimit hresult _ ih =>
      have hmore := nextFrame_append hnext more
      have horderly := hrefuses.disciplined hdisciplined hwell hmore rest (residue buffer)
        (List.prefix_append _ _)
      simp only [hresult] at horderly
      obtain ⟨hemission, hframe⟩ := horderly
      have htold := ih (by rw [hnone, hemission]; rfl) (hrefuses.rest hmore hframe)
      rw [List.length_append] at htold
      exact htold.cons hnext hframe
  | @refuses pending frame rest signals error failure buffer decoder hnext hlimit hresult hstate =>
      have hmore := nextFrame_append hnext more
      have horderly := hrefuses.disciplined hdisciplined hwell hmore rest (residue buffer)
        (List.prefix_append _ _)
      simp only [hresult] at horderly
      cases failure with
      | error e =>
          exact .fails rfl (by rw [hnone]; rfl) (hstate nofun) ⟨[], rfl, by simp, rfl⟩ hmore
            horderly rfl
      | silent => exact absurd horderly id
      | overrun => exact absurd horderly id

theorem Passes.mem_iff {stream rest : Bytes} {count : Nat}
    (h : Passes wellFormed stream rest count) :
    (∃ frame ∈ frames stream, wellFormed frame = false) ↔
      ∃ frame ∈ frames rest, wellFormed frame = false := by
  obtain ⟨passed, -, hpassed, hframes⟩ := h
  rw [hframes]
  constructor
  · rintro ⟨frame, hframe, hfalse⟩
    rcases List.mem_append.mp hframe with hmem | hmem
    · rw [hpassed frame hmem] at hfalse
      cases hfalse
    · exact ⟨frame, hmem, hfalse⟩
  · rintro ⟨frame, hframe, hfalse⟩
    exact ⟨frame, List.mem_append_right _ hframe, hfalse⟩

theorem Passes.takeWhile_eq {stream rest : Bytes} {count : Nat}
    (h : Passes wellFormed stream rest count) :
    ((frames stream).takeWhile wellFormed).length =
      count + ((frames rest).takeWhile wellFormed).length := by
  obtain ⟨passed, rfl, hpassed, hframes⟩ := h
  rw [hframes, List.takeWhile_append_of_pos hpassed, List.length_append]

theorem exists_first_malformed (contents : List Bytes)
    (h : ∃ frame ∈ contents, wellFormed frame = false) :
    ∃ before malformed after, contents = before ++ malformed :: after ∧
      (∀ frame ∈ before, wellFormed frame = true) ∧ wellFormed malformed = false := by
  obtain ⟨frame, hframe, hfalse⟩ := h
  have hsome : (contents.find? (!wellFormed ·)).isSome = true := by
    rw [List.find?_isSome]
    exact ⟨frame, hframe, by rw [hfalse]; rfl⟩
  obtain ⟨malformed, hmalformed⟩ := Option.isSome_iff_exists.mp hsome
  obtain ⟨hnot, before, after, rfl, hbefore⟩ := List.find?_eq_some_iff_append.mp hmalformed
  refine ⟨before, malformed, after, rfl, fun frame hframe => ?_, by simpa using hnot⟩
  simpa using hbefore frame hframe

/-- A decoder that waits behind the last call has only well formed frames. -/
theorem not_malformed_of_waits (decoder : Decoder) (pending : Bytes)
    (hholds : decoder.Holds pending) (hwaits : decoder.Waits)
    (hrefuses : RefusesMalformed wellFormed isDisciplined pending) :
    ¬ ∃ frame ∈ frames pending, wellFormed frame = false := by
  intro hexists
  obtain ⟨before, malformed, after, hframes, hbefore, hmalformed⟩ :=
    exists_first_malformed (frames pending) hexists
  obtain ⟨behind, hat⟩ := exists_frameAt pending hframes
  obtain ⟨-, hlengths⟩ := hrefuses before malformed behind hat hbefore hmalformed
  cases hat with
  | here hnext =>
      have := length_of_waits decoder pending hholds hwaits hnext
      have := hlengths malformed (by simp)
      omega
  | @later _ first _ _ _ _ hnext _ =>
      have := length_of_waits decoder pending hholds hwaits hnext
      have := hlengths first (by simp)
      omega

/-- Behind a failure the calls do nothing. -/
theorem idle_of_error (handler : Handler σ) (decoder : Decoder) (calls : List Call)
    (h : decoder.state = .error) :
    ∀ decoding ∈ decoder.decodeAll handler calls,
      decoding.outcome = .success ∧ decoding.error = none ∧ decoding.signals = [] := by
  obtain ⟨hreport, -, hall⟩ := decodeAll_of_error handler decoder calls h
  intro decoding hdecoding
  have hsignals : (decoder.decodeAll handler calls).flatMap (·.signals) = [] :=
    congrArg Report.signals hreport
  have herror : (decoder.decodeAll handler calls).findSome? (·.error) = none :=
    congrArg Report.error hreport
  exact ⟨hall decoding hdecoding, List.findSome?_eq_none_iff.mp herror decoding hdecoding,
    List.flatMap_eq_nil_iff.mp hsignals decoding hdecoding⟩

theorem Tells.cons_waits {stream rest : Bytes} {count : Nat} {decoding : Decoding σ}
    {run : List (Decoding σ)} (h : Tells wellFormed (frames rest) run)
    (hpasses : Passes wellFormed stream rest count) (houtcome : decoding.outcome = .success)
    (herror : decoding.error = none) (hsignals : decoding.signals.length = count) :
    Tells wellFormed (frames stream) (decoding :: run) where
  result := by
    intro other hother
    cases hother with
    | head => exact .inl ⟨houtcome, herror⟩
    | tail _ hother => exact h.result other hother
  signals := by
    have := h.signals
    rw [List.flatMap_cons, List.length_append, hpasses.takeWhile_eq]
    omega
  failure := by
    rw [hpasses.mem_iff, ← h.failure]
    simp [houtcome]
  silence := by
    intro before other after hrun hfailed
    cases before with
    | nil =>
        obtain ⟨rfl, -⟩ := List.cons.inj hrun
        exact absurd houtcome hfailed
    | cons _ before =>
        obtain ⟨-, hrun⟩ := List.cons.inj hrun
        exact h.silence before other after hrun hfailed
  learns := by
    rw [hpasses.mem_iff, ← h.learns]
    simp [Decoding.emittedError, herror]

theorem Tells.cons_fails {stream left malformed rest : Bytes} {count : Nat}
    {decoding : Decoding σ} {run : List (Decoding σ)}
    (hidle : ∀ decoding ∈ run, decoding.outcome = .success ∧ decoding.error = none ∧
      decoding.signals = [])
    (hpasses : Passes wellFormed stream left count)
    (hnext : nextFrame left = some (malformed, rest)) (hmalformed : wellFormed malformed = false)
    (houtcome : decoding.outcome = .failure) (herror : decoding.error.isSome = true)
    (hsignals : decoding.signals.length = count) :
    Tells wellFormed (frames stream) (decoding :: run) := by
  have hmem : ∃ frame ∈ frames stream, wellFormed frame = false := by
    rw [hpasses.mem_iff, frames_of_some hnext]
    exact ⟨malformed, List.mem_cons_self, hmalformed⟩
  constructor
  · intro other hother
    cases hother with
    | head => exact .inr ⟨houtcome, herror⟩
    | tail _ hother => exact .inl ⟨(hidle other hother).1, (hidle other hother).2.1⟩
  · have hnil : run.flatMap (·.signals) = [] :=
      List.flatMap_eq_nil_iff.mpr fun other hother => (hidle other hother).2.2
    rw [List.flatMap_cons, hnil, List.append_nil, hpasses.takeWhile_eq]
    omega
  · exact ⟨fun _ => hmem, fun _ => ⟨decoding, List.mem_cons_self, houtcome⟩⟩
  · intro before other after hrun hfailed later hlater
    cases before with
    | nil =>
        obtain ⟨-, rfl⟩ := List.cons.inj hrun
        exact (hidle later hlater).2.2
    | cons _ before =>
        obtain ⟨-, rfl⟩ := List.cons.inj hrun
        exact absurd (hidle other (by simp)).1 hfailed
  · exact ⟨fun _ => hmem, fun _ => ⟨decoding, List.mem_cons_self, herror⟩⟩

include hdisciplined hwell in
/-- A run over a stream whose first malformed frame is refused with an error. -/
theorem tells_decodeAll (decoder : Decoder) (pending : Bytes) (calls : List Call)
    (hholds : decoder.Holds pending) (hwaits : decoder.Waits)
    (hrefuses : RefusesMalformed wellFormed isDisciplined (pending ++ fed calls)) :
    Tells wellFormed (frames (pending ++ fed calls)) (decoder.decodeAll handler calls) := by
  induction calls generalizing decoder pending with
  | nil =>
      rw [fed, List.flatMap_nil, List.append_nil] at hrefuses ⊢
      have hnot := not_malformed_of_waits decoder pending hholds hwaits hrefuses
      refine ⟨by simp [Decoder.decodeAll], by simp [Decoder.decodeAll], ?_, ?_, ?_⟩
      · exact ⟨fun h => absurd h (by simp [Decoder.decodeAll]), fun h => absurd h hnot⟩
      · intro before decoding after hrun
        exact absurd hrun.symm (by simp [Decoder.decodeAll])
      · exact ⟨fun h => absurd h (by simp [Decoder.decodeAll]), fun h => absurd h hnot⟩
  | cons call calls ih =>
      have hfed : pending ++ fed (call :: calls) = (pending ++ call.chunk) ++ fed calls := by
        rw [fed, List.flatMap_cons, List.append_assoc]
        rfl
      rw [hfed] at hrefuses ⊢
      have htold := (walk_decode handler decoder pending call hholds hwaits).told hdisciplined hwell
        (fed calls) rfl hrefuses
      cases htold with
      | waits houtcome herror hholds hwaits hpasses hsignals hrest =>
          rw [decodeAll_cons handler decoder call calls houtcome (by decide)]
          exact (ih _ _ hholds hwaits hrest).cons_waits hpasses houtcome herror
            (by rw [hsignals, List.length_nil, Nat.zero_add])
      | fails houtcome herror hstate hpasses hnext hmalformed hsignals =>
          rw [decodeAll_cons handler decoder call calls houtcome (by decide)]
          exact .cons_fails (idle_of_error handler _ calls hstate) hpasses hnext hmalformed houtcome
            herror (by rw [hsignals, List.length_nil, Nat.zero_add])

include hdisciplined hwell in
/-- A call that has a frame in its bytes, behind well formed ones, waits for good in front of a
frame that is too long, or its handler gets the frame. -/
theorem Walk.reaches {residue : Residue} {pending frame behind : Bytes} {before : List Bytes}
    {signals : List σ} {decoding : Decoding σ}
    (h : Walk handler residue pending signals none decoding)
    (hat : FrameAt pending before frame behind)
    (hbefore : ∀ frame ∈ before, wellFormed frame = true) :
    decoding.outcome = .success ∧ (∃ content ∈ before ++ [frame], lengthLimit ≤ content.length) ∨
      (∀ content ∈ before ++ [frame], content.length < lengthLimit) ∧ ∃ buffer,
        match handler (.atFrame frame behind (residue buffer)) frame.length with
        | .ok _ => signals.length + before.length < decoding.signals.length
        | .error failure =>
            decoding.outcome = failure.outcome ∧ decoding.error = failure.error? := by
  induction hat generalizing signals with
  | @here stream content behind hnext =>
      cases h with
      | waits decoder hholds hwaits =>
          exact .inl ⟨rfl, content, by simp, length_of_waits decoder _ hholds hwaits hnext⟩
      | accepts buffer hnext' hlimit hresult hrest =>
          rw [hnext] at hnext'
          obtain ⟨rfl, rfl⟩ := Prod.mk.inj (Option.some.inj hnext')
          have hle := hrest.signals_le
          rw [List.length_append] at hle
          refine .inr ⟨by simpa using hlimit, buffer, ?_⟩
          rw [hresult]
          exact hle
      | refuses buffer decoder hnext' hlimit hresult _ =>
          rw [hnext] at hnext'
          obtain ⟨rfl, rfl⟩ := Prod.mk.inj (Option.some.inj hnext')
          refine .inr ⟨by simpa using hlimit, buffer, ?_⟩
          rw [hresult]
          exact ⟨rfl, rfl⟩
  | @later stream first rest content behind before hnext _ ih =>
      obtain ⟨hfirst, hbefore⟩ := List.forall_mem_cons.mp hbefore
      have horderly := (hdisciplined first rest).mpr (hwell first rest hfirst)
      cases h with
      | waits decoder hholds hwaits =>
          exact .inl ⟨rfl, first, by simp, length_of_waits decoder _ hholds hwaits hnext⟩
      | @accepts _ _ _ _ _ _ emission buffer hnext' hlimit hresult hrest =>
          rw [hnext] at hnext'
          obtain ⟨rfl, rfl⟩ := Prod.mk.inj (Option.some.inj hnext')
          have hone := horderly rest (residue buffer) (List.prefix_refl _)
          simp only [hresult] at hone
          have hnone : (none <|> emission.error) = none := hone.1
          rw [hnone] at hrest
          rcases ih hrest hbefore with ⟨hsuccess, content', hmem, hlong⟩ | ⟨hshort, buffer', hgets⟩
          · exact .inl ⟨hsuccess, content', List.mem_cons_of_mem _ hmem, hlong⟩
          · refine .inr ⟨List.forall_mem_cons.mpr ⟨hlimit, hshort⟩, buffer', ?_⟩
            rw [List.length_append, List.length_singleton] at hgets
            rw [List.length_cons]
            split at hgets
            · omega
            · exact hgets
      | @refuses _ _ _ _ _ failure buffer decoder hnext' _ hresult _ =>
          rw [hnext] at hnext'
          obtain ⟨rfl, rfl⟩ := Prod.mk.inj (Option.some.inj hnext')
          have hone := horderly rest (residue buffer) (List.prefix_refl _)
          simp only [hresult, hfirst] at hone
          cases failure with
          | error e => exact absurd hone nofun
          | silent => exact absurd hone id
          | overrun => exact absurd hone id

theorem decode_mem_decodeAll (handler : Handler σ) (decoder : Decoder) (call : Call)
    (calls : List Call) :
    decoder.decode handler call.residue call.chunk ∈ decoder.decodeAll handler (call :: calls) := by
  rw [Decoder.decodeAll]
  split
  · exact List.mem_singleton.mpr rfl
  · exact List.mem_cons_self

include hdisciplined hwell in
/-- When every run tells, the first malformed frame is refused with an error. -/
theorem refusesMalformed_of_discipline (stream : Bytes)
    (h : ErrorDiscipline handler wellFormed stream) :
    RefusesMalformed wellFormed isDisciplined stream := by
  intro before malformed behind hat hbefore hmalformed
  have hframes := hat.frames
  have htake : ((frames stream).takeWhile wellFormed).length = before.length := by
    rw [hframes, List.takeWhile_append_of_pos hbefore, List.takeWhile_cons, hmalformed]
    simp
  have hlengths : ∀ frame ∈ before ++ [malformed], frame.length < lengthLimit := by
    have htells := h [⟨stream, fun _ _ => 0⟩] (List.append_nil stream)
    obtain ⟨decoding, hdecoding, hfailure⟩ := htells.failure.mpr
      ⟨malformed, by rw [hframes]; simp, hmalformed⟩
    have hrun : Decoder.init.decodeAll handler [⟨stream, fun _ _ => 0⟩] =
        [Decoder.init.decode handler (fun _ _ => 0) stream] := by
      rw [Decoder.decodeAll]
      split
      · rfl
      · rfl
    rw [hrun, List.mem_singleton] at hdecoding
    have hwalk := walk_decode handler .init [] ⟨stream, fun _ _ => 0⟩ rfl rfl
    rcases hwalk.reaches hdisciplined hwell hat hbefore with ⟨hsuccess, -⟩ | ⟨hshort, -⟩
    · rw [← hdecoding, hfailure] at hsuccess
      cases hsuccess
    · exact hshort
  refine ⟨?_, hlengths⟩
  rw [← hdisciplined]
  intro following residue hprefix
  obtain ⟨later, rfl⟩ := hprefix
  obtain ⟨head, rfl, hhead⟩ := hat.exists_head
  have hhere := hhead.append following
  rw [List.nil_append] at hhere
  have htells := h [⟨head ++ following, fun _ => residue⟩, ⟨later, fun _ => residue⟩] (by
    simp [fed])
  have hmem := decode_mem_decodeAll handler .init ⟨head ++ following, fun _ => residue⟩
    [⟨later, fun _ => residue⟩]
  have hwalk := walk_decode handler .init [] ⟨head ++ following, fun _ => residue⟩ rfl rfl
  rcases hwalk.reaches hdisciplined hwell hhere hbefore with
    ⟨-, frame, hframe, hlong⟩ | ⟨-, buffer, hgets⟩
  · have := hlengths frame hframe
    omega
  · have hresult := htells.result _ hmem
    cases hhandler : handler (.atFrame malformed following residue) malformed.length with
    | ok emission =>
        simp only [hhandler] at hgets
        have hle := htells.signals
        have hsublist : (Decoder.init.decode handler (fun _ => residue)
            (head ++ following)).signals.length ≤
            ((Decoder.init.decodeAll handler [⟨head ++ following, fun _ => residue⟩,
              ⟨later, fun _ => residue⟩]).flatMap (·.signals)).length := by
          obtain ⟨run, run', hrun⟩ := List.append_of_mem hmem
          rw [hrun, List.flatMap_append, List.flatMap_cons]
          simp only [List.length_append]
          omega
        simp only [List.length_nil] at hgets
        omega
    | error failure =>
        simp only [hhandler] at hgets
        rw [hgets.1, hgets.2] at hresult
        cases failure with
        | error e =>
            simp only [hhandler]
            exact hmalformed
        | silent => simp [Failure.outcome, Failure.error?] at hresult
        | overrun => simp [Failure.outcome, Failure.error?] at hresult

include hdisciplined hwell in
theorem errorDiscipline_iff (stream : Bytes) :
    ErrorDiscipline handler wellFormed stream ↔
      RefusesMalformed wellFormed isDisciplined stream := by
  constructor
  · exact refusesMalformed_of_discipline hdisciplined hwell stream
  · intro hrefuses calls hcalls
    subst hcalls
    exact tells_decodeAll hdisciplined hwell .init [] calls rfl rfl hrefuses

end Handler

/-- Every run of the decoders tells of the first malformed frame exactly when that frame is refused
with an error and no frame up to it has `0x80000000` bytes or more. -/
theorem errorDiscipline_iff_refusesMalformed (addressText : AddressText) (stream : Bytes) :
    (ErrorDiscipline (CommandDecoder.decode addressText) (CommandDecoder.wellFormed addressText)
        stream ↔
      RefusesMalformed (CommandDecoder.wellFormed addressText)
        (CommandDecoder.isDisciplined addressText) stream) ∧
      (ErrorDiscipline ReplyDecoder.decode ReplyDecoder.wellFormed stream ↔
        RefusesMalformed ReplyDecoder.wellFormed ReplyDecoder.isDisciplined stream) := by
  constructor
  · apply errorDiscipline_iff
    · intro frame behind
      exact CommandDecoder.disciplined_decode addressText frame
    · exact fun frame behind => CommandDecoder.isDisciplined_of_wellFormed addressText frame behind
  · apply errorDiscipline_iff
    · intro frame behind
      exact ReplyDecoder.disciplined_decode frame
    · exact fun frame behind => ReplyDecoder.isDisciplined_of_wellFormed frame behind

/-- An empty name of a HELO command fails without an error, and an add-recipient reply without its
NUL is signalled along with an error. -/
theorem not_errorDiscipline :
    ¬ ErrorDiscipline (CommandDecoder.decode noAddressText)
        (CommandDecoder.wellFormed noAddressText) [0, 0, 0, 2, 72, 0] ∧
      ¬ ErrorDiscipline ReplyDecoder.decode ReplyDecoder.wellFormed [0, 0, 0, 2, 43, 97] := by
  constructor
  · intro h
    have hcall : (Decoder.init.decode (CommandDecoder.decode noAddressText) (fun _ _ => 0)
          [0, 0, 0, 2, 72, 0]).outcome = .failure ∧
        (Decoder.init.decode (CommandDecoder.decode noAddressText) (fun _ _ => 0)
          [0, 0, 0, 2, 72, 0]).error.isSome = false := by decide +kernel
    have htells := h [⟨[0, 0, 0, 2, 72, 0], fun _ _ => 0⟩] rfl
    rcases htells.result _ List.mem_cons_self with ⟨hsuccess, -⟩ | ⟨-, herror⟩
    · exact absurd (hcall.1.symm.trans hsuccess) nofun
    · exact absurd (hcall.2.symm.trans herror) nofun
  · intro h
    have hcall : (Decoder.init.decode ReplyDecoder.decode (fun _ _ => 0)
          [0, 0, 0, 2, 43, 97]).outcome = .success ∧
        (Decoder.init.decode ReplyDecoder.decode (fun _ _ => 0)
          [0, 0, 0, 2, 43, 97]).error.isSome = true := by decide +kernel
    have htells := h [⟨[0, 0, 0, 2, 43, 97], fun _ _ => 0⟩] rfl
    rcases htells.result _ List.mem_cons_self with ⟨-, hnone⟩ | ⟨hfailure, -⟩
    · exact absurd (hcall.2.symm.trans (congrArg Option.isSome hnone)) nofun
    · exact absurd (hcall.1.symm.trans hfailure) nofun

end MilterManager.Codec
