import MilterManager.Base.Runs
import Mathlib.Algebra.Ring.Nat
import Mathlib.Data.List.Nodup

/-!
# The accounting of sessions

The single-threaded `MilterClient`, from `milter/client/milter-client.c`: the counters of sessions
and the batches in which finished sessions are disposed of. The accepting thread runs at any time;
handlers of signals run in the middle of the other functions, what these still have to do is on a
stack. A session is named by the number of sessions that were accepted before it.
-/

namespace MilterManager.Client

open MilterManager.Base

/-- A `guint` behind an addition. -/
def guint (n : Nat) : Nat := n % 0x100000000

/-- A `guint` behind the subtraction of another one. -/
def guintSub (n m : Nat) : Nat := if m ≤ n then n - m else n + 0x100000000 - m

/-- The part of `MilterClientPrivate` that counts sessions. Of the idle source of `finisher_id` only
its user data. -/
structure MilterClient where
  maxConnections : Nat
  maxPendingFinishedSessions : Nat
  maintenanceInterval : Nat
  nProcessingSessions : Nat
  nProcessedSessions : Nat
  finisher : Option Nat
  finishedData : Option (List Nat)
deriving DecidableEq, Repr

/-- What is left of a function while handlers run: the loop of `dispose_finished_data` with its next
index, and the signals `sessions-finished`, `maintain`, `connection-established` and the error of a
start that failed. A batch goes with the number of sessions disposed of before it. -/
inductive SessionFrame where
  | disposing (index nProcessedBefore disposedBefore : Nat)
  | sessionsFinished (nFinished disposedBefore disposedAfter : Nat)
  | maintaining
  | established
  | startFailed (session : Nat)
deriving DecidableEq, Repr

namespace SessionFrame

/-- A batch is being disposed of. -/
def isDisposing : SessionFrame → Bool
  | disposing _ _ _ => true
  | _ => false

/-- The handlers of `sessions-finished` are running. -/
def isSessionsFinished : SessionFrame → Bool
  | sessionsFinished _ _ _ => true
  | _ => false

end SessionFrame

/-- A connection is accepted, an idle source sets a session up, a context emits `finished`, the idle
finisher runs, and handlers return. -/
inductive SessionEvent where
  | accept
  | setup (session : Nat) (started : Bool)
  | finish (session : Nat)
  | finisher
  | proceed
deriving DecidableEq, Repr

/-- A client that runs: the sessions accepted, those not set up, those whose `finished` is listened
to, those that finished and those disposed of in this order, the counts of `sessions-finished` and
the number of times `maintain` was emitted. -/
structure ClientRun where
  client : MilterClient
  stack : List SessionFrame
  accepted : Nat
  pending : List Nat
  connected : List Nat
  finished : List Nat
  disposed : List Nat
  counts : List Nat
  maintained : Nat
deriving DecidableEq, Repr

/-- `milter_client_need_maintain`, `milter/client/milter-client.c:653`. -/
def MilterClient.needMaintain (client : MilterClient) (nFinishedSessions : Nat) : Bool :=
  if client.nProcessingSessions = 0 ∧ 0 < nFinishedSessions then true
  else if client.maintenanceInterval = 0 then false
  else decide (client.nProcessedSessions % client.maintenanceInterval < nFinishedSessions)

namespace ClientRun

/-- A client without sessions. -/
def init (maxConnections maxPendingFinishedSessions maintenanceInterval : Nat) : ClientRun where
  client := ⟨maxConnections, maxPendingFinishedSessions, maintenanceInterval, 0, 0, none, none⟩
  stack := []
  accepted := 0
  pending := []
  connected := []
  finished := []
  disposed := []
  counts := []
  maintained := 0

/-- `finish_processing`, `milter/client/milter-client.c:582`, with `milter_client_session_finished`;
quitting is left out. -/
def finishProcessing (s : ClientRun) (session : Nat) : ClientRun :=
  { s with
    client :=
      { s.client with
        nProcessingSessions := guintSub s.client.nProcessingSessions 1
        nProcessedSessions := guint (s.client.nProcessedSessions + 1) }
    disposed := s.disposed ++ [session] }

/-- The loop of `dispose_finished_data`, `milter/client/milter-client.c:672`, and what is behind it
up to the handlers of `sessions-finished`; the loop meets the end of the array as it is by then. -/
def disposeNext (s : ClientRun) (index nProcessedBefore disposedBefore : Nat) : ClientRun :=
  match (s.client.finishedData.getD [])[index]? with
  | some session =>
      let s := s.finishProcessing session
      { s with stack := .disposing (index + 1) nProcessedBefore disposedBefore :: s.stack }
  | none =>
      let nFinished := guintSub s.client.nProcessedSessions nProcessedBefore
      { s with
        client := { s.client with finishedData := none }
        stack := .sessionsFinished nFinished disposedBefore s.disposed.length :: s.stack
        counts := s.counts ++ [nFinished] }

/-- `dispose_finished_data`. -/
def disposeFinishedData (s : ClientRun) : ClientRun :=
  match s.client.finishedData with
  | none => s
  | some _ => s.disposeNext 0 s.client.nProcessedSessions s.disposed.length

/-- With one more finished session, more wait than `max_pending_finished_sessions` allows. -/
def overflows (s : ClientRun) : Bool :=
  decide (0 < s.client.maxPendingFinishedSessions ∧
    s.client.maxPendingFinishedSessions < (s.client.finishedData.getD []).length + 1)

/-- `single_thread_cb_finished`, `milter/client/milter-client.c:1166`, which is connected once. -/
def cbFinished (s : ClientRun) (session : Nat) : ClientRun :=
  if session ∈ s.connected then
    let overflows := s.overflows
    let s :=
      { s with
        client :=
          { s.client with finishedData := some (s.client.finishedData.getD [] ++ [session]) }
        connected := s.connected.erase session
        finished := s.finished ++ [session] }
    if overflows then
      disposeFinishedData { s with client := { s.client with finisher := none } }
    else if s.client.finisher = none then
      { s with client := { s.client with finisher := some session } }
    else s
  else s

/-- `accept_connection_fd`, `milter/client/milter-client.c:1336`, which waits while there are too
many sessions, with `milter_client_session_started`. -/
def accept (s : ClientRun) : ClientRun :=
  if 0 < s.client.maxConnections ∧ s.client.maxConnections ≤ s.client.nProcessingSessions then s
  else
    { s with
      client :=
        { s.client with nProcessingSessions := guint (s.client.nProcessingSessions + 1) }
      accepted := s.accepted + 1
      pending := s.pending ++ [s.accepted] }

/-- `single_thread_client_channel_setup`, `milter/client/milter-client.c:1257`, up to the handlers
of `connection-established` or of the error. -/
def setup (s : ClientRun) (session : Nat) (started : Bool) : ClientRun :=
  if session ∈ s.pending then
    { s with
      pending := s.pending.erase session
      connected := session :: s.connected
      stack := (if started then .established else .startFailed session) :: s.stack }
  else s

/-- `single_thread_finisher`, `milter/client/milter-client.c:1153`. -/
def runFinisher (s : ClientRun) : ClientRun :=
  match s.client.finisher with
  | none => s
  | some _ => disposeFinishedData { s with client := { s.client with finisher := none } }

/-- What is behind the handlers on top of the stack. -/
def proceed (s : ClientRun) : SessionFrame → ClientRun
  | .disposing index nProcessedBefore disposedBefore =>
      s.disposeNext index nProcessedBefore disposedBefore
  | .sessionsFinished nFinished _ _ =>
      if s.client.needMaintain nFinished then
        { s with stack := .maintaining :: s.stack, maintained := s.maintained + 1 }
      else s
  | .maintaining => s
  | .established => s
  | .startFailed session => s.cbFinished session

/-- One event; an event for which it is not the time changes nothing. -/
def step (s : ClientRun) : SessionEvent → ClientRun
  | .accept => s.accept
  | .setup session started => if s.stack = [] then s.setup session started else s
  | .finish session => s.cbFinished session
  | .finisher => if s.stack = [] then s.runFinisher else s
  | .proceed =>
      match s.stack with
      | frame :: stack => { s with stack := stack }.proceed frame
      | [] => s

/-- The finished sessions that the batch on top of the stack, or the next one, has to dispose of. -/
def waiting (s : ClientRun) : List Nat :=
  match s.stack with
  | .disposing index _ _ :: _ => (s.client.finishedData.getD []).drop index
  | _ => s.client.finishedData.getD []

/-- No batch is being disposed of. -/
def Settled (s : ClientRun) : Prop := ∀ frame ∈ s.stack, frame.isDisposing = false

/-- The event ends the handlers of `sessions-finished` for a batch in which the processed count
passed a multiple of the interval, or behind which no session is being processed. -/
def MaintenanceDue (s : ClientRun) (event : SessionEvent) : Prop :=
  event = .proceed ∧ ∃ nFinished disposedBefore disposedAfter stack,
    s.stack = .sessionsFinished nFinished disposedBefore disposedAfter :: stack ∧
      (s.accepted = s.disposed.length ∨
        ∃ n, disposedBefore < n ∧ n ≤ disposedAfter ∧ s.client.maintenanceInterval ∣ n)

/-- The counters agree with the sessions. -/
def Counted (s : ClientRun) : Prop :=
  s.client.nProcessingSessions + s.disposed.length = s.accepted ∧
    s.client.nProcessedSessions = s.disposed.length ∧
    (s.Settled → s.counts.sum = s.disposed.length)

/-- Finished sessions are disposed of once, or wait for it with a live finisher. -/
def DisposedOnce (s : ClientRun) : Prop :=
  s.disposed.Nodup ∧
    (∀ session, session ∈ s.finished ↔ session ∈ s.disposed ∨ session ∈ s.waiting) ∧
    (∀ session ∈ s.waiting, session ∉ s.disposed) ∧
    (s.stack = [] → ∀ data, s.client.finishedData = some data → data ≠ [] →
      ∃ session ∈ data, s.client.finisher = some session ∧ session ∉ s.disposed)

/-- The counters are right, finished sessions are disposed of once, and `maintain` is emitted for
the batches it is due for. -/
def Kept (s : ClientRun) (event : SessionEvent) : Prop :=
  (s.step event).Counted ∧ (s.step event).DisposedOnce ∧
    (s.MaintenanceDue event → (s.step event).maintained = s.maintained + 1) ∧
    (¬s.MaintenanceDue event → (s.step event).maintained = s.maintained)

/-- No session finishes while a batch is being disposed of, none starts another batch from a handler
of `sessions-finished`, and the counters do not wrap around. -/
def Undisturbed (s : ClientRun) : SessionEvent → Prop
  | .accept => s.client.nProcessingSessions + 1 < 0x100000000
  | .setup _ _ => True
  | .finish session =>
      session ∈ s.connected →
        s.Settled ∧ (s.overflows = true → s.client.nProcessedSessions + 1 < 0x100000000 ∧
          ∀ frame ∈ s.stack, frame.isSessionsFinished = false)
  | .finisher => s.client.nProcessedSessions + 1 < 0x100000000
  | .proceed => s.client.nProcessedSessions + 1 < 0x100000000

instance (s : ClientRun) : ∀ event, Decidable (s.Undisturbed event)
  | .accept => inferInstanceAs (Decidable (s.client.nProcessingSessions + 1 < 0x100000000))
  | .setup _ _ => inferInstanceAs (Decidable True)
  | .finish session =>
      inferInstanceAs (Decidable (session ∈ s.connected →
        (∀ frame ∈ s.stack, frame.isDisposing = false) ∧
          (s.overflows = true → s.client.nProcessedSessions + 1 < 0x100000000 ∧
            ∀ frame ∈ s.stack, frame.isSessionsFinished = false)))
  | .finisher => inferInstanceAs (Decidable (s.client.nProcessedSessions + 1 < 0x100000000))
  | .proceed => inferInstanceAs (Decidable (s.client.nProcessedSessions + 1 < 0x100000000))

/-- All sessions that were accepted. -/
def everyone (s : ClientRun) : List Nat := s.pending ++ (s.connected ++ s.finished)

/-- What holds of the sessions when some of them wait to be disposed of. -/
structure Books (s : ClientRun) (waiting : List Nat) : Prop where
  processing : s.client.nProcessingSessions + s.disposed.length = s.accepted
  processed : s.client.nProcessedSessions = s.disposed.length
  processingLt : s.client.nProcessingSessions < 0x100000000
  processedLt : s.client.nProcessedSessions < 0x100000000
  sessions : s.finished = s.disposed ++ waiting
  nodup : s.everyone.Nodup
  known : ∀ session ∈ s.everyone, session < s.accepted
  total : s.everyone.length = s.accepted

/-- The finisher belongs to a session that waits, if there is one. -/
def Watched (s : ClientRun) : Prop :=
  match s.client.finishedData with
  | none => s.client.finisher = none
  | some data => ∃ session ∈ data, s.client.finisher = some session

/-- What holds of the function on top of the stack. -/
def Top (s : ClientRun) : Prop :=
  match s.stack with
  | .disposing _ nProcessedBefore disposedBefore :: _ =>
      s.client.finisher = none ∧ nProcessedBefore = disposedBefore ∧
        s.counts.sum = disposedBefore ∧ disposedBefore < s.disposed.length
  | .sessionsFinished nFinished disposedBefore disposedAfter :: _ =>
      s.Watched ∧ s.counts.sum = s.disposed.length ∧ disposedAfter = s.disposed.length ∧
        disposedBefore < disposedAfter ∧ nFinished = disposedAfter - disposedBefore
  | _ => s.Watched ∧ s.counts.sum = s.disposed.length

/-- Nothing happens to a batch before its handlers have returned. -/
def Quiet (stack : List SessionFrame) : Prop :=
  ∀ frame ∈ stack, frame.isDisposing = false ∧ frame.isSessionsFinished = false

/-- What holds in every state of an undisturbed run. -/
structure Inv (s : ClientRun) : Prop where
  books : s.Books s.waiting
  top : s.Top
  below : Quiet s.stack.tail

/-- What holds before the loop of a batch looks at the next index. -/
structure Batch (s : ClientRun) (index nProcessedBefore disposedBefore : Nat) : Prop where
  books : s.Books ((s.client.finishedData.getD []).drop index)
  finisher : s.client.finisher = none
  before : nProcessedBefore = disposedBefore
  counts : s.counts.sum = disposedBefore
  disposed : disposedBefore ≤ s.disposed.length
  nonempty : disposedBefore < s.disposed.length ∨ index < (s.client.finishedData.getD []).length
  quiet : Quiet s.stack

theorem inv_init (maxConnections maxPendingFinishedSessions maintenanceInterval : Nat) :
    (init maxConnections maxPendingFinishedSessions maintenanceInterval).Inv where
  books := ⟨rfl, rfl, Nat.succ_pos _, Nat.succ_pos _, rfl, List.nodup_nil,
    fun _ h => absurd h List.not_mem_nil, rfl⟩
  top := ⟨rfl, rfl⟩
  below _ h := absurd h List.not_mem_nil

theorem guintSub_of_le {n m : Nat} (hle : m ≤ n) : guintSub n m = n - m := if_pos hle

/-- A batch of `count` sessions that ends at `n` passes a multiple exactly when the rest is less. -/
theorem mod_lt_iff_crosses {n count interval : Nat} (hcount : count ≤ n)
    (hinterval : interval ≠ 0) :
    n % interval < count ↔ ∃ m, n - count < m ∧ m ≤ n ∧ interval ∣ m := by
  have hpos := Nat.pos_of_ne_zero hinterval
  have hrest := Nat.mod_le n interval
  constructor
  · intro hlt
    refine ⟨n - n % interval, by omega, Nat.sub_le _ _, ?_⟩
    exact Nat.dvd_sub_mod n
  · rintro ⟨m, hbefore, hafter, hdvd⟩
    have hle : n % interval ≤ n - m := by
      have hmod : n % interval = (n - m) % interval := by
        conv => lhs; rw [← Nat.sub_add_cancel hafter]
        rw [Nat.add_mod, Nat.mod_eq_zero_of_dvd hdvd, Nat.add_zero, Nat.mod_mod]
      rw [hmod]
      exact Nat.mod_le _ _
    omega

section Steps

variable {s : ClientRun}

theorem quiet_of_mem_tail {frame : SessionFrame} {stack : List SessionFrame} (h : s.Inv)
    (hs : s.stack = frame :: stack) : Quiet stack := by
  have hbelow := h.below
  rwa [hs] at hbelow

/-- A session that waits makes the next one in the loop, and is still processed. -/
theorem Books.processing_pos {session : Nat} {waiting : List Nat}
    (h : s.Books (session :: waiting)) :
    0 < s.client.nProcessingSessions := by
  have hlength := congrArg List.length h.sessions
  rw [List.length_append, List.length_cons] at hlength
  have htotal := h.total
  rw [everyone, List.length_append, List.length_append] at htotal
  have hprocessing := h.processing
  omega

theorem Books.finishProcessing {session : Nat} {waiting : List Nat}
    (h : s.Books (session :: waiting)) (hsmall : s.client.nProcessedSessions + 1 < 0x100000000) :
    (s.finishProcessing session).Books waiting := by
  have hpos := h.processing_pos
  have hsub := guintSub_of_le hpos
  have hadd : guint (s.client.nProcessedSessions + 1) = s.client.nProcessedSessions + 1 :=
    Nat.mod_eq_of_lt hsmall
  have hprocessing := h.processing
  rw [ClientRun.finishProcessing]
  exact
    { processing := by
        show guintSub _ 1 + (s.disposed ++ [session]).length = s.accepted
        rw [hsub, List.length_append, List.length_singleton]
        omega
      processed := by
        show guint _ = (s.disposed ++ [session]).length
        rw [hadd, h.processed, List.length_append, List.length_singleton]
      processingLt := by
        show guintSub _ 1 < _
        rw [hsub]
        have hlt := h.processingLt
        omega
      processedLt := by
        show guint _ < _
        rw [hadd]
        exact hsmall
      sessions := by
        show s.finished = s.disposed ++ [session] ++ waiting
        rw [h.sessions, List.append_assoc, List.singleton_append]
      nodup := h.nodup
      known := h.known
      total := h.total }

theorem Batch.disposeNext {index nProcessedBefore disposedBefore : Nat}
    (h : s.Batch index nProcessedBefore disposedBefore)
    (hsmall : s.client.nProcessedSessions + 1 < 0x100000000) :
    (s.disposeNext index nProcessedBefore disposedBefore).Inv := by
  rw [ClientRun.disposeNext]
  split
  · next session hget =>
      have hdrop : (s.client.finishedData.getD []).drop index =
          session :: (s.client.finishedData.getD []).drop (index + 1) := by
        obtain ⟨hlt, hvalue⟩ := List.getElem?_eq_some_iff.mp hget
        rw [List.drop_eq_getElem_cons hlt, hvalue]
      have hbooks := h.books
      rw [hdrop] at hbooks
      have hnext := hbooks.finishProcessing hsmall
      have hlength : s.disposed.length < (s.disposed ++ [session]).length := by simp
      rw [ClientRun.finishProcessing] at hnext
      dsimp only [ClientRun.finishProcessing]
      exact
        { books := ⟨hnext.processing, hnext.processed, hnext.processingLt, hnext.processedLt,
            hnext.sessions, hnext.nodup, hnext.known, hnext.total⟩
          top := ⟨h.finisher, h.before, h.counts, Nat.lt_of_le_of_lt h.disposed hlength⟩
          below := h.quiet }
  · next hget =>
      have hend := List.getElem?_eq_none_iff.mp hget
      have hbooks := h.books
      rw [List.drop_eq_nil_of_le hend] at hbooks
      have hsome := h.nonempty.resolve_right (Nat.not_lt.mpr hend)
      have hcount : guintSub s.client.nProcessedSessions nProcessedBefore =
          s.disposed.length - disposedBefore := by
        rw [h.books.processed, h.before]
        exact guintSub_of_le h.disposed
      exact
        { books := ⟨hbooks.processing, hbooks.processed, hbooks.processingLt, hbooks.processedLt,
            hbooks.sessions, hbooks.nodup, hbooks.known, hbooks.total⟩
          top := by
            refine ⟨h.finisher, ?_, rfl, hsome, hcount⟩
            show (s.counts ++ [_]).sum = s.disposed.length
            rw [List.sum_append, List.sum_singleton, hcount, h.counts]
            exact Nat.add_sub_of_le h.disposed
          below := h.quiet }

theorem Batch.disposeFinishedData {data : List Nat} (hdata : s.client.finishedData = some data)
    (h : s.Batch 0 s.client.nProcessedSessions s.disposed.length)
    (hsmall : s.client.nProcessedSessions + 1 < 0x100000000) : s.disposeFinishedData.Inv := by
  rw [ClientRun.disposeFinishedData, hdata]
  exact h.disposeNext hsmall

theorem waiting_of_settled (h : s.Settled) : s.waiting = s.client.finishedData.getD [] := by
  rw [waiting]
  split
  · next hs =>
      have hdisposing := h _ (hs ▸ List.mem_cons_self)
      cases hdisposing
  · rfl

theorem settled_of_quiet {stack : List SessionFrame} (h : Quiet stack) :
    ({ s with stack := stack } : ClientRun).Settled := fun frame hframe => (h frame hframe).1

/-- No batch is under way: the sessions that finished are watched, and all others are counted. -/
theorem Inv.watched (h : s.Inv) (hsettled : s.Settled) :
    s.Watched ∧ s.counts.sum = s.disposed.length := by
  have htop := h.top
  rw [Top] at htop
  split at htop
  · next hs =>
      have hdisposing := hsettled _ (hs ▸ List.mem_cons_self)
      cases hdisposing
  · exact ⟨htop.1, htop.2.1⟩
  · exact htop

/-- Below quiet frames nothing else is left to say. -/
theorem top_of_quiet (hquiet : Quiet s.stack) (hwatched : s.Watched)
    (hcounts : s.counts.sum = s.disposed.length) : s.Top := by
  rw [Top]
  split
  · next hs =>
      have hdisposing := (hquiet _ (hs ▸ List.mem_cons_self)).1
      cases hdisposing
  · next hs =>
      have hfinished := (hquiet _ (hs ▸ List.mem_cons_self)).2
      cases hfinished
  · exact ⟨hwatched, hcounts⟩

/-- With the same stack, what waits may grow and be watched. -/
theorem Top.of_watched {t : ClientRun} (h : s.Top) (hsettled : s.Settled)
    (hstack : t.stack = s.stack)
    (hdisposed : t.disposed = s.disposed) (hcounts : t.counts = s.counts) (hwatched : t.Watched) :
    t.Top := by
  rw [Top] at h ⊢
  rw [hstack, hdisposed, hcounts]
  split at h
  · next hs =>
      have hdisposing := hsettled _ (hs ▸ List.mem_cons_self)
      cases hdisposing
  · exact ⟨hwatched, h.2⟩
  · exact ⟨hwatched, h.2⟩

theorem everyone_finish {session : Nat} (hsession : session ∈ s.connected) :
    (s.pending ++ (s.connected.erase session ++ (s.finished ++ [session]))).Perm s.everyone := by
  apply List.Perm.append_left
  have hlast : (s.finished ++ [session]).Perm (session :: s.finished) :=
    List.perm_append_singleton _ _
  have hmiddle : (s.connected.erase session ++ (session :: s.finished)).Perm
      (session :: (s.connected.erase session ++ s.finished)) := List.perm_middle
  have hfirst : (session :: (s.connected.erase session ++ s.finished)).Perm
      (s.connected ++ s.finished) := (List.perm_cons_erase hsession).symm.append_right s.finished
  exact ((hlast.append_left _).trans hmiddle).trans hfirst

theorem everyone_setup {session : Nat} (hsession : session ∈ s.pending) :
    (s.pending.erase session ++ (session :: s.connected ++ s.finished)).Perm s.everyone := by
  have hmiddle : (s.pending.erase session ++ (session :: (s.connected ++ s.finished))).Perm
      (session :: (s.pending.erase session ++ (s.connected ++ s.finished))) := List.perm_middle
  have hfirst : (session :: (s.pending.erase session ++ (s.connected ++ s.finished))).Perm
      (s.pending ++ (s.connected ++ s.finished)) :=
    (List.perm_cons_erase hsession).symm.append_right (s.connected ++ s.finished)
  exact hmiddle.trans hfirst

/-- Sessions that only change their place stay in the books. -/
theorem Books.perm {t : ClientRun} {waiting more : List Nat} (h : s.Books waiting)
    (hprocessing : t.client.nProcessingSessions = s.client.nProcessingSessions)
    (hprocessed : t.client.nProcessedSessions = s.client.nProcessedSessions)
    (haccepted : t.accepted = s.accepted) (hdisposed : t.disposed = s.disposed)
    (hfinished : t.finished = s.finished ++ more) (hperm : t.everyone.Perm s.everyone) :
    t.Books (waiting ++ more) where
  processing := by
    rw [hprocessing, hdisposed, haccepted]
    exact h.processing
  processed := by
    rw [hprocessed, hdisposed]
    exact h.processed
  processingLt := hprocessing ▸ h.processingLt
  processedLt := hprocessed ▸ h.processedLt
  sessions := by rw [hfinished, h.sessions, hdisposed, List.append_assoc]
  nodup := hperm.nodup_iff.mpr h.nodup
  known session hsession := haccepted ▸ h.known session (hperm.mem_iff.mp hsession)
  total := by
    rw [hperm.length_eq, haccepted]
    exact h.total

/-- One more session waits. -/
theorem Books.finish {session : Nat} {waiting : List Nat} (h : s.Books waiting)
    (hsession : session ∈ s.connected) (client : MilterClient)
    (hprocessing : client.nProcessingSessions = s.client.nProcessingSessions)
    (hprocessed : client.nProcessedSessions = s.client.nProcessedSessions) :
    ({ s with
      client := client
      connected := s.connected.erase session
      finished := s.finished ++ [session] } : ClientRun).Books (waiting ++ [session]) :=
  h.perm hprocessing hprocessed rfl rfl rfl (everyone_finish hsession)

theorem inv_cbFinished (h : s.Inv) {session : Nat} (hsettled : s.Settled)
    (hbatch : s.overflows = true → s.client.nProcessedSessions + 1 < 0x100000000 ∧ Quiet s.stack) :
    (s.cbFinished session).Inv := by
  rw [cbFinished]
  split
  · next hsession =>
      obtain ⟨hwatched, hcounts⟩ := h.watched hsettled
      have hbooks := h.books
      rw [waiting_of_settled hsettled] at hbooks
      dsimp only
      split
      · next hoverflows =>
          obtain ⟨hsmall, hquiet⟩ := hbatch hoverflows
          refine Batch.disposeFinishedData rfl ?_ hsmall
          exact
            { books := hbooks.finish hsession _ rfl rfl
              finisher := rfl
              before := h.books.processed
              counts := hcounts
              disposed := Nat.le_refl _
              nonempty := .inr (by
                show 0 < (s.client.finishedData.getD [] ++ [session]).length
                rw [List.length_append]
                exact Nat.succ_pos _)
              quiet := hquiet }
      · have hnext (client : MilterClient)
            (hdata : client.finishedData = some (s.client.finishedData.getD [] ++ [session]))
            (hprocessing : client.nProcessingSessions = s.client.nProcessingSessions)
            (hprocessed : client.nProcessedSessions = s.client.nProcessedSessions)
            (hfinisher : ∃ other ∈ s.client.finishedData.getD [] ++ [session],
              client.finisher = some other) :
            ({ s with
              client := client
              connected := s.connected.erase session
              finished := s.finished ++ [session] } : ClientRun).Inv :=
          { books := by
              rw [@waiting_of_settled { s with client := client, connected := _, finished := _ }
                hsettled, hdata]
              exact hbooks.finish hsession client hprocessing hprocessed
            top := by
              refine h.top.of_watched hsettled rfl rfl rfl ?_
              rw [Watched]
              dsimp only
              rw [hdata]
              exact hfinisher
            below := h.below }
        split
        · apply hnext
          · rfl
          · rfl
          · rfl
          · exact ⟨session, List.mem_append_right _ List.mem_cons_self, rfl⟩
        · next hfinisher =>
            apply hnext
            · rfl
            · rfl
            · rfl
            · rw [Watched] at hwatched
              split at hwatched
              · exact absurd hwatched hfinisher
              · next data hdata =>
                  obtain ⟨other, hother, hset⟩ := hwatched
                  refine ⟨other, List.mem_append_left _ ?_, hset⟩
                  rw [hdata]
                  exact hother
  · exact h

theorem inv_accept (h : s.Inv) (hsmall : s.client.nProcessingSessions + 1 < 0x100000000) :
    s.accept.Inv := by
  have hadd : guint (s.client.nProcessingSessions + 1) = s.client.nProcessingSessions + 1 :=
    Nat.mod_eq_of_lt hsmall
  have hbooks := h.books
  rw [accept]
  split
  · exact h
  · have hperm : (s.pending ++ [s.accepted] ++ (s.connected ++ s.finished)).Perm
        (s.accepted :: s.everyone) := by
      rw [List.append_assoc, List.singleton_append]
      exact List.perm_middle
    exact
      { books :=
          { processing := by
              show guint _ + s.disposed.length = s.accepted + 1
              rw [hadd, ← hbooks.processing]
              omega
            processed := hbooks.processed
            processingLt := by
              show guint _ < _
              rw [hadd]
              exact hsmall
            processedLt := hbooks.processedLt
            sessions := hbooks.sessions
            nodup := by
              apply hperm.nodup_iff.mpr
              apply List.nodup_cons.mpr
              exact ⟨fun hmem => absurd (hbooks.known _ hmem) (Nat.lt_irrefl _), hbooks.nodup⟩
            known := by
              intro session hsession
              rcases List.mem_cons.mp (hperm.mem_iff.mp hsession) with rfl | hsession
              · exact Nat.lt_succ_self _
              · exact Nat.lt_succ_of_lt (hbooks.known session hsession)
            total := by
              have hlength := hperm.length_eq
              rw [List.length_cons, hbooks.total] at hlength
              exact hlength }
        top := h.top
        below := h.below }

theorem inv_setup (h : s.Inv) (hstack : s.stack = []) (session : Nat) (started : Bool) :
    (s.setup session started).Inv := by
  have hsettled : s.Settled := by
    intro frame hframe
    rw [hstack] at hframe
    cases hframe
  have hwatched := h.watched hsettled
  have hbooks := h.books
  rw [waiting_of_settled hsettled] at hbooks
  rw [setup]
  split
  · next hsession =>
      have hnext : ({ s with
          pending := s.pending.erase session
          connected := session :: s.connected
          stack := (if started then .established else .startFailed session) :: s.stack } :
          ClientRun).Books (s.client.finishedData.getD [] ++ []) :=
        hbooks.perm rfl rfl rfl rfl (List.append_nil _).symm (everyone_setup hsession)
      rw [List.append_nil] at hnext
      have hbelow : Quiet s.stack := by
        intro frame hframe
        rw [hstack] at hframe
        cases hframe
      cases started with
      | true => exact ⟨hnext, hwatched, hbelow⟩
      | false => exact ⟨hnext, hwatched, hbelow⟩
  · exact h

theorem inv_runFinisher (h : s.Inv) (hstack : s.stack = [])
    (hsmall : s.client.nProcessedSessions + 1 < 0x100000000) : s.runFinisher.Inv := by
  have hquiet : Quiet s.stack := by
    intro frame hframe
    rw [hstack] at hframe
    cases hframe
  have hsettled : s.Settled := fun frame hframe => (hquiet frame hframe).1
  obtain ⟨hwatched, hcounts⟩ := h.watched hsettled
  have hbooks := h.books
  rw [waiting_of_settled hsettled] at hbooks
  rw [runFinisher]
  split
  · exact h
  · next hfinisher =>
      rw [Watched] at hwatched
      split at hwatched
      · cases hfinisher.symm.trans hwatched
      · next data hdata =>
          obtain ⟨session, hsession, -⟩ := hwatched
          refine @Batch.disposeFinishedData { s with client := { s.client with finisher := none } }
            data hdata ?_ hsmall
          exact
            { books := ⟨hbooks.processing, hbooks.processed, hbooks.processingLt,
                hbooks.processedLt, hbooks.sessions, hbooks.nodup, hbooks.known, hbooks.total⟩
              finisher := rfl
              before := hbooks.processed
              counts := hcounts
              disposed := Nat.le_refl _
              nonempty := .inr (by
                show 0 < (s.client.finishedData.getD []).length
                rw [hdata]
                exact List.length_pos_of_mem hsession)
              quiet := hquiet }

theorem Inv.pop (h : s.Inv) {frame : SessionFrame} {stack : List SessionFrame}
    (hs : s.stack = frame :: stack) (hframe : frame.isDisposing = false) :
    ({ s with stack := stack } : ClientRun).Inv := by
  have hquiet := quiet_of_mem_tail h hs
  have hsettled : s.Settled := by
    intro other hother
    rw [hs] at hother
    rcases List.mem_cons.mp hother with rfl | hother
    · exact hframe
    · exact (hquiet other hother).1
  obtain ⟨hwatched, hcounts⟩ := h.watched hsettled
  have hbooks := h.books
  rw [waiting_of_settled hsettled] at hbooks
  exact
    { books := by
        rw [@waiting_of_settled { s with stack := stack } (settled_of_quiet hquiet)]
        exact ⟨hbooks.processing, hbooks.processed, hbooks.processingLt, hbooks.processedLt,
          hbooks.sessions, hbooks.nodup, hbooks.known, hbooks.total⟩
      top := top_of_quiet hquiet hwatched hcounts
      below := fun other hother => hquiet other (List.mem_of_mem_tail hother) }

theorem inv_proceed (h : s.Inv) {frame : SessionFrame} {stack : List SessionFrame}
    (hs : s.stack = frame :: stack) (hsmall : s.client.nProcessedSessions + 1 < 0x100000000) :
    (({ s with stack := stack } : ClientRun).proceed frame).Inv := by
  have hquiet := quiet_of_mem_tail h hs
  cases frame with
  | disposing index nProcessedBefore disposedBefore =>
      have htop := h.top
      have hbooks := h.books
      rw [Top, hs] at htop
      rw [waiting, hs] at hbooks
      refine @Batch.disposeNext { s with stack := stack } _ _ _ ?_ hsmall
      exact
        { books := ⟨hbooks.processing, hbooks.processed, hbooks.processingLt, hbooks.processedLt,
            hbooks.sessions, hbooks.nodup, hbooks.known, hbooks.total⟩
          finisher := htop.1
          before := htop.2.1
          counts := htop.2.2.1
          disposed := Nat.le_of_lt htop.2.2.2
          nonempty := .inl htop.2.2.2
          quiet := hquiet }
  | sessionsFinished nFinished disposedBefore disposedAfter =>
      have hpop := h.pop hs rfl
      rw [proceed]
      split
      · obtain ⟨hwatched, hcounts⟩ := hpop.watched (settled_of_quiet hquiet)
        have hbooks := hpop.books
        rw [@waiting_of_settled { s with stack := stack } (settled_of_quiet hquiet)] at hbooks
        exact
          { books := ⟨hbooks.processing, hbooks.processed, hbooks.processingLt, hbooks.processedLt,
              hbooks.sessions, hbooks.nodup, hbooks.known, hbooks.total⟩
            top := ⟨hwatched, hcounts⟩
            below := hquiet }
      · exact hpop
  | maintaining => exact h.pop hs rfl
  | established => exact h.pop hs rfl
  | startFailed session =>
      apply inv_cbFinished (h.pop hs rfl)
      · exact settled_of_quiet hquiet
      · exact fun _ => ⟨hsmall, hquiet⟩

theorem inv_step (h : s.Inv) {event : SessionEvent} (hundisturbed : s.Undisturbed event) :
    (s.step event).Inv := by
  cases event with
  | accept => exact inv_accept h hundisturbed
  | setup session started =>
      rw [step]
      split
      · next hstack => exact inv_setup h hstack session started
      · exact h
  | finish session =>
      rw [step]
      by_cases hsession : session ∈ s.connected
      · obtain ⟨hsettled, hbatch⟩ := hundisturbed hsession
        apply inv_cbFinished h hsettled
        intro hoverflows
        obtain ⟨hsmall, hsessions⟩ := hbatch hoverflows
        exact ⟨hsmall, fun frame hframe => ⟨hsettled frame hframe, hsessions frame hframe⟩⟩
      · rw [cbFinished, if_neg hsession]
        exact h
  | finisher =>
      rw [step]
      split
      · next hstack => exact inv_runFinisher h hstack hundisturbed
      · exact h
  | proceed =>
      rw [step]
      split
      · next hs => exact inv_proceed h hs hundisturbed
      · exact h

theorem counted_of_inv (h : s.Inv) : s.Counted :=
  ⟨h.books.processing, h.books.processed, fun hsettled => (h.watched hsettled).2⟩

theorem disposedOnce_of_inv (h : s.Inv) : s.DisposedOnce := by
  have hnodup : (s.disposed ++ s.waiting).Nodup := by
    have heveryone := h.books.nodup
    rw [everyone, List.nodup_append', List.nodup_append'] at heveryone
    rw [← h.books.sessions]
    exact heveryone.2.1.2.1
  have happart := List.nodup_append'.mp hnodup
  have hwaiting : ∀ session ∈ s.waiting, session ∉ s.disposed :=
    fun session hsession hdisposed => happart.2.2 hdisposed hsession
  refine ⟨happart.1, ?_, hwaiting, ?_⟩
  · intro session
    rw [h.books.sessions]
    exact List.mem_append
  · intro hstack data hdata _
    have hsettled : s.Settled := by
      intro frame hframe
      rw [hstack] at hframe
      cases hframe
    have hwatched := (h.watched hsettled).1
    rw [Watched, hdata] at hwatched
    obtain ⟨session, hsession, hfinisher⟩ := hwatched
    refine ⟨session, hsession, hfinisher, hwaiting session ?_⟩
    rw [waiting_of_settled hsettled, hdata]
    exact hsession

theorem maintained_disposeNext (s : ClientRun) (index nProcessedBefore disposedBefore : Nat) :
    (s.disposeNext index nProcessedBefore disposedBefore).maintained = s.maintained := by
  rw [ClientRun.disposeNext]
  split
  · rfl
  · rfl

theorem maintained_disposeFinishedData (s : ClientRun) :
    s.disposeFinishedData.maintained = s.maintained := by
  rw [ClientRun.disposeFinishedData]
  split
  · rfl
  · exact maintained_disposeNext s _ _ _

theorem maintained_cbFinished (s : ClientRun) (session : Nat) :
    (s.cbFinished session).maintained = s.maintained := by
  rw [cbFinished]
  split
  · dsimp only
    split
    · exact maintained_disposeFinishedData _
    · split
      · rfl
      · rfl
  · rfl

/-- The check behind a batch, in terms of the sessions. -/
theorem needMaintain_iff {disposedBefore nFinished : Nat} (h : s.Books s.waiting)
    (hbefore : disposedBefore < s.disposed.length)
    (hcount : nFinished = s.disposed.length - disposedBefore) :
    s.client.needMaintain nFinished = true ↔ s.accepted = s.disposed.length ∨
      ∃ n, disposedBefore < n ∧ n ≤ s.disposed.length ∧ s.client.maintenanceInterval ∣ n := by
  have hprocessing := h.processing
  have hidle : s.client.nProcessingSessions = 0 ∧ 0 < nFinished ↔
      s.accepted = s.disposed.length := by
    omega
  rw [MilterClient.needMaintain]
  split
  · next hnone => exact iff_of_true rfl (.inl (hidle.mp hnone))
  · next hsome =>
      rw [or_iff_right (fun hnone => hsome (hidle.mpr hnone))]
      split
      · next hinterval =>
          apply iff_of_false Bool.false_ne_true
          rintro ⟨n, hlt, -, hdvd⟩
          rw [hinterval, Nat.zero_dvd] at hdvd
          omega
      · next hinterval =>
          rw [decide_eq_true_eq, h.processed, mod_lt_iff_crosses (by omega) hinterval]
          have hstart : s.disposed.length - nFinished = disposedBefore := by omega
          rw [hstart]

theorem not_maintenanceDue (h : ∀ nFinished disposedBefore disposedAfter stack,
    s.stack ≠ .sessionsFinished nFinished disposedBefore disposedAfter :: stack) :
    ¬s.MaintenanceDue .proceed := by
  rintro ⟨-, nFinished, disposedBefore, disposedAfter, stack, hs, -⟩
  exact h _ _ _ _ hs

theorem maintained_step (h : s.Inv) (event : SessionEvent) :
    (s.MaintenanceDue event → (s.step event).maintained = s.maintained + 1) ∧
      (¬s.MaintenanceDue event → (s.step event).maintained = s.maintained) := by
  have hother (hne : event ≠ .proceed) (hsame : (s.step event).maintained = s.maintained) :
      (s.MaintenanceDue event → (s.step event).maintained = s.maintained + 1) ∧
        (¬s.MaintenanceDue event → (s.step event).maintained = s.maintained) :=
    ⟨fun hdue => absurd hdue.1 hne, fun _ => hsame⟩
  cases event with
  | accept =>
      apply hother SessionEvent.noConfusion
      rw [step, accept]
      split
      · rfl
      · rfl
  | setup session started =>
      apply hother SessionEvent.noConfusion
      rw [step]
      split
      · rw [setup]
        split
        · rfl
        · rfl
      · rfl
  | finish session =>
      apply hother SessionEvent.noConfusion
      exact maintained_cbFinished s session
  | finisher =>
      apply hother SessionEvent.noConfusion
      rw [step]
      split
      · rw [runFinisher]
        split
        · rfl
        · exact maintained_disposeFinishedData _
      · rfl
  | proceed =>
      cases hs : s.stack with
      | nil =>
          have hnone : ¬s.MaintenanceDue .proceed :=
            not_maintenanceDue fun _ _ _ _ hsome => by cases hs.symm.trans hsome
          rw [step, hs]
          exact ⟨fun hdue => absurd hdue hnone, fun _ => rfl⟩
      | cons frame stack =>
          rw [step, hs]
          dsimp only
          by_cases hfinished : frame.isSessionsFinished = true
          · cases frame with
            | sessionsFinished nFinished disposedBefore disposedAfter =>
                have htop := h.top
                rw [Top, hs] at htop
                obtain ⟨-, -, rfl, hbefore, hcount⟩ := htop
                have hneed := needMaintain_iff h.books hbefore hcount
                rw [proceed]
                split
                · next hmaintain =>
                    refine ⟨fun _ => rfl, fun hundue => absurd ?_ hundue⟩
                    exact ⟨rfl, _, _, _, _, hs, hneed.mp hmaintain⟩
                · next hmaintain =>
                    refine ⟨fun hdue => absurd ?_ hmaintain, fun _ => rfl⟩
                    obtain ⟨-, _, _, _, _, hsame, hdue⟩ := hdue
                    cases hs.symm.trans hsame
                    exact hneed.mpr hdue
            | _ => cases hfinished
          · have hnone : ¬s.MaintenanceDue .proceed := by
              apply not_maintenanceDue
              intro _ _ _ _ hsome
              cases hs.symm.trans hsome
              exact hfinished rfl
            refine ⟨fun hdue => absurd hdue hnone, fun _ => ?_⟩
            cases frame with
            | disposing index nProcessedBefore disposedBefore =>
              exact maintained_disposeNext _ _ _ _
            | sessionsFinished => exact absurd rfl hfinished
            | startFailed session => exact maintained_cbFinished _ session
            | _ => rfl

end Steps

/-- In every run in which no session finishes while a batch is disposed of, and none starts a batch
from a handler of `sessions-finished`, the sessions are accounted for. -/
theorem kept_along_of_undisturbed (maxConnections maxPendingFinishedSessions
    maintenanceInterval : Nat) (events : List SessionEvent)
    (h : Along step Undisturbed
      (init maxConnections maxPendingFinishedSessions maintenanceInterval) events) :
    Along step Kept (init maxConnections maxPendingFinishedSessions maintenanceInterval)
      events := by
  refine Along.of_invariant ?_ (inv_init _ _ _) h
  intro s event hinv hundisturbed
  have hnext := inv_step hinv hundisturbed
  exact ⟨hnext, counted_of_inv hnext, disposedOnce_of_inv hnext, maintained_step hinv event⟩

/-- Three sessions: the start of one fails, and another one finishes while that is reported. -/
theorem kept_along_of_undisturbed_three :
    Along step Kept (init 0 1 2) [.accept, .accept, .accept, .setup 0 true, .proceed, .setup 1 true,
      .proceed, .setup 2 false, .finish 0, .proceed, .proceed, .proceed, .proceed, .proceed] :=
  kept_along_of_undisturbed 0 1 2 _ (by decide)

/-- A session that finishes while another one is disposed of starts the batch again, and the first
session is disposed of twice. -/
theorem not_kept_along_twice :
    ¬∀ (maxConnections maxPendingFinishedSessions maintenanceInterval : Nat)
      (events : List SessionEvent),
      Along step Kept (init maxConnections maxPendingFinishedSessions maintenanceInterval)
        events := by
  intro h
  have hrun := h 0 1 0 [.accept, .accept, .setup 0 true, .proceed, .setup 1 true, .proceed,
    .finish 0, .finisher, .finish 1]
  have hnodup := hrun.2.2.2.2.2.2.2.2.1.2.1.1
  revert hnodup
  decide

end ClientRun

end MilterManager.Client
