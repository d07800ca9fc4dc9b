import MilterManager.Base.Runs
import MilterManager.Control.RoundTrip
import MilterManager.Core.Ascii

/-!
# The process launcher

`MilterManagerProcessLauncher`, from `milter/manager/milter-manager-process-launcher.c`: the
processes that run, the launch commands that start one, and the exits that remove one. What the
system answers to a launch is an input.
-/

namespace MilterManager.Launcher

open MilterManager.Base MilterManager.Core MilterManager.Codec MilterManager.Control

/-- `ProcessData`. -/
structure ProcessData where
  pid : Nat
  commandLine : CString
  userName : Option CString
deriving DecidableEq, Repr

/-- A `GError` of GLib, with the text of its domain. -/
structure SubError where
  domain : CString
  code : Int
  message : Option CString
deriving DecidableEq, Repr

/-- What the system answers to a launch: `getpwnam_r` finds the user, or does not, with the text of
an error if there is one; `g_shell_parse_argv` reads the command line; and
`g_spawn_async_with_pipes` starts a process. -/
structure HostAnswer where
  passwordEntry : Except (Option CString) Unit
  argv : Except SubError Unit
  spawn : Except SubError Nat

/-- The errors of `launch`, with what their messages quote. -/
inductive LaunchError where
  | alreadyLaunched (commandLine : CString)
  | invalidUserName (userName : CString) (error : Option CString)
  | badCommandString (commandLine : CString) (error : SubError)
  | startFailure (commandLine : CString) (error : SubError)
deriving DecidableEq, Repr

/-- `printf` with `%d` of an `int`. -/
def decimalOfInt (n : Int) : Bytes :=
  if n < 0 then ascii "-" ++ decimal n.natAbs else decimal n.natAbs

/-- What `milter_utils_set_error_with_sub_error` puts behind a message,
`milter/core/milter-utils.c:337`. -/
def SubError.text (error : SubError) : Bytes :=
  ascii ": " ++ error.domain.bytes ++ ascii ":" ++ decimalOfInt error.code ++
    error.message.elim [] fun message => ascii ": " ++ message.bytes

/-- The message of an error. -/
def LaunchError.message : LaunchError → CString
  | .alreadyLaunched commandLine =>
      .ofBytes (ascii "already launched: <" ++ commandLine.bytes ++ ascii ">")
  | .invalidUserName userName error =>
      .ofBytes (ascii "No password entry: <" ++ userName.bytes ++ ascii ">" ++
        error.elim [] fun text => ascii ": " ++ text.bytes)
  | .badCommandString commandLine error =>
      .ofBytes (ascii "Command string has invalid character(s): <" ++ commandLine.bytes ++
        ascii ">" ++ error.text)
  | .startFailure commandLine error =>
      .ofBytes (ascii "Couldn't start new process: <" ++ commandLine.bytes ++ ascii ">" ++
        error.text)

/-- What comes of a launch command: the process that was started, or why none was. -/
abbrev LaunchResult := Except LaunchError ProcessData

/-- The reply to a launch command. -/
def replyTo (result : LaunchResult) : ControlReply :=
  match result with
  | .ok _ => .success
  | .error error => .error error.message

/-- What has happened to the launcher. -/
inductive Occurrence where
  | answered (command : LaunchSignal) (result : LaunchResult)
  | exited (pid : Nat)

/-- The launcher: its processes, the newest first, the reply encoder of its agent, the packets given
to `milter_agent_write_packet`, and what has happened. -/
structure ProcessLauncher where
  processes : List ProcessData
  encoder : Encoder
  packets : List Bytes
  log : List Occurrence

/-- What happens to the launcher: the decoder signals a command, or a process exits. -/
inductive LauncherEvent where
  | launch (command : LaunchSignal) (answer : HostAnswer)
  | exited (pid : Nat)

namespace ProcessLauncher

/-- `milter_manager_process_launcher_init`. -/
def init : ProcessLauncher := ⟨[], .init, [], []⟩

/-- `is_already_launched`, `milter/manager/milter-manager-process-launcher.c:232`. -/
def isAlreadyLaunched (launcher : ProcessLauncher) (commandLine : CString) : Bool :=
  launcher.processes.any (·.commandLine == commandLine)

/-- `launch`, `milter/manager/milter-manager-process-launcher.c:296`: the process that is started.
The user is looked up only where the command names one. -/
def launch (launcher : ProcessLauncher) (answer : HostAnswer) (commandLine : CString)
    (userName : Option CString) : LaunchResult := do
  if launcher.isAlreadyLaunched commandLine then throw (.alreadyLaunched commandLine)
  if let some name := userName then answer.passwordEntry.mapError (.invalidUserName name)
  answer.argv.mapError (.badCommandString commandLine)
  let pid ← answer.spawn.mapError (.startFailure commandLine)
  return ⟨pid, commandLine, userName⟩

/-- The processes when a command is answered. -/
def processesAfter (launcher : ProcessLauncher) (result : LaunchResult) : List ProcessData :=
  match result with
  | .ok data => data :: launcher.processes
  | .error _ => launcher.processes

/-- `cb_decoder_launch`, `milter/manager/milter-manager-process-launcher.c:394`. -/
def cbDecoderLaunch (launcher : ProcessLauncher) (command : LaunchSignal) (answer : HostAnswer) :
    ProcessLauncher :=
  let result := launcher.launch answer command.commandLine command.userName
  let encoded := ControlReplyEncoder.encode launcher.encoder (replyTo result)
  { processes := launcher.processesAfter result
    encoder := encoded.1
    packets := launcher.packets ++ [encoded.2]
    log := launcher.log ++ [.answered command result] }

/-- `child_watch_func`, `milter/manager/milter-manager-process-launcher.c:205`. -/
def childWatchFunc (launcher : ProcessLauncher) (pid : Nat) : ProcessLauncher :=
  { launcher with
    processes := launcher.processes.eraseP (·.pid == pid)
    log := launcher.log ++ [.exited pid] }

/-- One event. -/
def step (launcher : ProcessLauncher) : LauncherEvent → ProcessLauncher
  | .launch command answer => launcher.cbDecoderLaunch command answer
  | .exited pid => launcher.childWatchFunc pid

/-- The system starts a process under the number of none that has not exited. -/
def Fresh (launcher : ProcessLauncher) : LauncherEvent → Prop
  | .launch _ answer => ∀ pid, answer.spawn = .ok pid → ∀ data ∈ launcher.processes, data.pid ≠ pid
  | .exited _ => True

end ProcessLauncher

namespace Occurrence

/-- What the launcher replied. -/
def reply : Occurrence → Option ControlReply
  | .answered _ result => some (replyTo result)
  | .exited _ => none

/-- The command that was answered. -/
def command : Occurrence → Option LaunchSignal
  | .answered command _ => some command
  | .exited _ => none

end Occurrence

/-- A process was started, and has not exited since. -/
def RunningIn (log : List Occurrence) (data : ProcessData) : Prop :=
  ∃ before command after, log = before ++ .answered command (.ok data) :: after ∧
    .exited data.pid ∉ after

/-- What was said to a command is so: a process is started for a command line that no process was
running for, and `already launched` is said only where there was one. -/
structure Justified (before : List Occurrence) (command : LaunchSignal) (result : LaunchResult) :
    Prop where
  started : ∀ data, result = .ok data →
    data.commandLine = command.commandLine ∧ data.userName = command.userName ∧
      ∀ other, RunningIn before other → other.commandLine ≠ command.commandLine
  refused : ∀ commandLine, result = .error (.alreadyLaunched commandLine) →
    commandLine = command.commandLine ∧
      ∃ other, RunningIn before other ∧ other.commandLine = command.commandLine

/-- The launcher has one process for a command line, its processes are those that were started and
have not exited, each command has one reply, in its turn, and the replies were justified. -/
structure Sound (launcher : ProcessLauncher) : Prop where
  exclusive : (launcher.processes.map ProcessData.commandLine).Nodup
  distinct : (launcher.processes.map ProcessData.pid).Nodup
  running : ∀ data, data ∈ launcher.processes ↔ RunningIn launcher.log data
  answered : launcher.packets =
    (launcher.log.filterMap Occurrence.reply).map fun reply => frame reply.content
  justified : ∀ before command result after,
    launcher.log = before ++ .answered command result :: after → Justified before command result

section Log

variable {log before after : List Occurrence} {data : ProcessData}

/-- Where the last entry of a list stands when the list is cut at an entry. -/
theorem concat_eq_append_cons_iff {α : Type} {xs front back : List α} {last x : α} :
    xs ++ [last] = front ++ x :: back ↔
      xs = front ∧ last = x ∧ back = [] ∨
        ∃ rest, back = rest ++ [last] ∧ xs = front ++ x :: rest := by
  constructor
  · intro h
    rcases List.eq_nil_or_concat back with rfl | ⟨rest, final, rfl⟩
    · rcases List.append_inj' h rfl with ⟨hfront, hlast⟩
      exact .inl ⟨hfront, List.head_eq_of_cons_eq hlast, rfl⟩
    · rw [List.concat_eq_append, ← List.cons_append, ← List.append_assoc] at h
      rcases List.append_inj' h rfl with ⟨hfront, hlast⟩
      rw [List.concat_eq_append, List.head_eq_of_cons_eq hlast]
      exact .inr ⟨rest, rfl, hfront⟩
  · rintro (⟨rfl, rfl, rfl⟩ | ⟨rest, rfl, rfl⟩)
    · rfl
    · rw [List.append_assoc, List.cons_append]

theorem runningIn_exited (pid : Nat) :
    RunningIn (log ++ [.exited pid]) data ↔ RunningIn log data ∧ data.pid ≠ pid := by
  constructor
  · rintro ⟨before, command, after, hlog, hafter⟩
    rcases concat_eq_append_cons_iff.mp hlog with ⟨_, hlast, _⟩ | ⟨rest, rfl, hrest⟩
    · cases hlast
    · rw [List.mem_append, not_or] at hafter
      refine ⟨⟨before, command, rest, hrest, hafter.1⟩, fun hpid => hafter.2 ?_⟩
      rw [hpid]
      exact List.mem_singleton_self _
  · rintro ⟨⟨before, command, after, rfl, hafter⟩, hpid⟩
    refine ⟨before, command, after ++ [.exited pid], ?_, ?_⟩
    · rw [List.append_assoc, List.cons_append]
    · intro hmem
      rcases List.mem_append.mp hmem with hmem | hmem
      · exact hafter hmem
      · cases List.mem_singleton.mp hmem
        exact hpid rfl

theorem runningIn_answered (command : LaunchSignal) (result : LaunchResult) :
    RunningIn (log ++ [.answered command result]) data ↔
      RunningIn log data ∨ result = .ok data := by
  constructor
  · rintro ⟨before, started, after, hlog, hafter⟩
    rcases concat_eq_append_cons_iff.mp hlog with ⟨_, hlast, _⟩ | ⟨rest, rfl, hrest⟩
    · cases hlast
      exact .inr rfl
    · rw [List.mem_append, not_or] at hafter
      exact .inl ⟨before, started, rest, hrest, hafter.1⟩
  · rintro (⟨before, started, after, rfl, hafter⟩ | rfl)
    · refine ⟨before, started, after ++ [.answered command result], ?_, ?_⟩
      · rw [List.append_assoc, List.cons_append]
      · intro hmem
        rcases List.mem_append.mp hmem with hmem | hmem
        · exact hafter hmem
        · cases List.mem_singleton.mp hmem
    · exact ⟨log, command, [], rfl, List.not_mem_nil⟩

end Log

/-- An entry of a log that grew is the last one, or it was there. -/
theorem Sound.justified_concat {launcher : ProcessLauncher} (h : Sound launcher) {last : Occurrence}
    (hlast : ∀ command result, last = .answered command result →
      Justified launcher.log command result) :
    ∀ before command result after,
      launcher.log ++ [last] = before ++ .answered command result :: after →
      Justified before command result := by
  intro before command result after hlog
  rcases concat_eq_append_cons_iff.mp hlog with ⟨rfl, hanswered, _⟩ | ⟨rest, _, hrest⟩
  · exact hlast command result hanswered
  · exact h.justified before command result rest hrest

/-- Where the keys are distinct, one entry has a key. -/
theorem eraseP_eq_filter {α : Type} (key : α → Nat) (n : Nat) {xs : List α}
    (h : (xs.map key).Nodup) :
    xs.eraseP (fun x => key x == n) = xs.filter fun x => key x != n := by
  induction xs with
  | nil => rfl
  | cons x xs ih =>
      rw [List.map_cons, List.nodup_cons] at h
      by_cases hkey : key x = n
      · rw [List.eraseP_cons_of_pos (by simpa using hkey),
          List.filter_cons_of_neg (by simpa using hkey)]
        apply Eq.symm
        apply List.filter_eq_self.mpr
        intro other hother
        have hne : key other ≠ n := fun heq =>
          h.1 (List.mem_map.mpr ⟨other, hother, heq.trans hkey.symm⟩)
        simpa using hne
      · rw [List.eraseP_cons_of_neg (by simpa using hkey),
          List.filter_cons_of_pos (by simpa using hkey), ih h.2]

namespace ProcessLauncher

variable (launcher : ProcessLauncher) (answer : HostAnswer) (commandLine : CString)
variable (userName : Option CString)

theorem isAlreadyLaunched_iff : launcher.isAlreadyLaunched commandLine = true ↔
    ∃ data ∈ launcher.processes, data.commandLine = commandLine := by
  simp [isAlreadyLaunched]

/-- All that `launch` can come to. -/
theorem launch_cases :
    launcher.isAlreadyLaunched commandLine = true ∧
        launcher.launch answer commandLine userName = .error (.alreadyLaunched commandLine) ∨
      launcher.isAlreadyLaunched commandLine = false ∧
        ((∃ pid, answer.spawn = .ok pid ∧
            launcher.launch answer commandLine userName = .ok ⟨pid, commandLine, userName⟩) ∨
          ∃ error, launcher.launch answer commandLine userName = .error error ∧
            ∀ quoted, error ≠ .alreadyLaunched quoted) := by
  rw [launch]
  cases hrunning : launcher.isAlreadyLaunched commandLine with
  | true => exact .inl ⟨rfl, rfl⟩
  | false =>
      refine .inr ⟨rfl, ?_⟩
      rcases answer with ⟨passwordEntry, argv, spawn⟩
      cases userName with
      | none =>
          cases argv <;> cases spawn <;>
            simp [Except.mapError, bind, Except.bind, pure, Except.pure]
      | some name =>
          cases passwordEntry <;> cases argv <;> cases spawn <;>
            simp [Except.mapError, bind, Except.bind, pure, Except.pure]

variable {launcher answer}

theorem sound_init : Sound init where
  exclusive := List.nodup_nil
  distinct := List.nodup_nil
  running := by
    intro data
    apply iff_of_false List.not_mem_nil
    rintro ⟨before, command, after, hlog, _⟩
    exact absurd hlog.symm (List.append_ne_nil_of_right_ne_nil _ (List.cons_ne_nil _ _))
  answered := rfl
  justified before command result after hlog :=
    absurd hlog.symm (List.append_ne_nil_of_right_ne_nil _ (List.cons_ne_nil _ _))

theorem sound_exited (h : Sound launcher) (pid : Nat) : Sound (launcher.childWatchFunc pid) := by
  have hprocesses : (launcher.childWatchFunc pid).processes =
      launcher.processes.filter fun data => data.pid != pid :=
    eraseP_eq_filter ProcessData.pid pid h.distinct
  exact
    { exclusive := by
        rw [hprocesses]
        exact h.exclusive.sublist (List.filter_sublist.map _)
      distinct := by
        rw [hprocesses]
        exact h.distinct.sublist (List.filter_sublist.map _)
      running := by
        intro data
        rw [hprocesses, List.mem_filter, h.running]
        show _ ↔ RunningIn (launcher.log ++ [Occurrence.exited pid]) data
        rw [runningIn_exited, bne_iff_ne]
      answered := by
        show launcher.packets = ((launcher.log ++ [Occurrence.exited pid]).filterMap _).map _
        rw [List.filterMap_append, h.answered]
        exact congrArg (List.map _) (List.append_nil _).symm
      justified := by
        apply h.justified_concat
        rintro _ _ ⟨⟩ }

theorem sound_launch (h : Sound launcher) (command : LaunchSignal)
    (hfresh : launcher.Fresh (.launch command answer)) :
    Sound (launcher.cbDecoderLaunch command answer) := by
  have hpacket (result : LaunchResult) :
      (ControlReplyEncoder.encode launcher.encoder (replyTo result)).2 =
        frame (replyTo result).content := ControlReply.encode_snd _ _
  have hanswered (result : LaunchResult) :
      launcher.packets ++ [(ControlReplyEncoder.encode launcher.encoder (replyTo result)).2] =
        ((launcher.log ++ [Occurrence.answered command result]).filterMap Occurrence.reply).map
          fun reply => frame reply.content := by
    rw [List.filterMap_append, List.map_append, h.answered, hpacket]
    rfl
  rw [cbDecoderLaunch]
  rcases launcher.launch_cases answer command.commandLine command.userName with
    ⟨hrunning, hlaunch⟩ | ⟨hrunning, ⟨pid, hspawn, hlaunch⟩ | ⟨error, hlaunch, herror⟩⟩
  · rw [hlaunch]
    exact
      { exclusive := h.exclusive
        distinct := h.distinct
        running := by
          intro data
          rw [runningIn_answered, or_iff_left (by rintro ⟨⟩)]
          exact h.running data
        answered := hanswered _
        justified := by
          apply h.justified_concat
          rintro _ _ ⟨⟩
          refine ⟨by rintro _ ⟨⟩, ?_⟩
          rintro _ ⟨⟩
          rcases (launcher.isAlreadyLaunched_iff _).mp hrunning with ⟨other, hother, hline⟩
          exact ⟨rfl, other, (h.running other).mp hother, hline⟩ }
  · have hnone : ∀ other ∈ launcher.processes, other.commandLine ≠ command.commandLine := by
      intro other hother hline
      rw [(launcher.isAlreadyLaunched_iff _).mpr ⟨other, hother, hline⟩] at hrunning
      cases hrunning
    rw [hlaunch]
    exact
      { exclusive := by
          apply List.nodup_cons.mpr
          refine ⟨fun hmem => ?_, h.exclusive⟩
          rcases List.mem_map.mp hmem with ⟨other, hother, hline⟩
          exact hnone other hother hline
        distinct := by
          apply List.nodup_cons.mpr
          refine ⟨fun hmem => ?_, h.distinct⟩
          rcases List.mem_map.mp hmem with ⟨other, hother, hpid⟩
          exact hfresh pid hspawn other hother hpid
        running := by
          intro data
          show data ∈ _ :: launcher.processes ↔ _
          rw [runningIn_answered, ← h.running, List.mem_cons, or_comm, Except.ok.injEq, eq_comm]
        answered := hanswered _
        justified := by
          apply h.justified_concat
          rintro _ _ ⟨⟩
          refine ⟨?_, by rintro _ ⟨⟩⟩
          rintro _ ⟨⟩
          exact ⟨rfl, rfl, fun other hother => hnone other ((h.running other).mpr hother)⟩ }
  · rw [hlaunch]
    exact
      { exclusive := h.exclusive
        distinct := h.distinct
        running := by
          intro data
          rw [runningIn_answered, or_iff_left (by rintro ⟨⟩)]
          exact h.running data
        answered := hanswered _
        justified := by
          apply h.justified_concat
          rintro _ _ ⟨⟩
          refine ⟨by rintro _ ⟨⟩, fun quoted hquoted => ?_⟩
          exact absurd (Except.error.inj hquoted) (herror quoted) }

theorem sound_step (h : Sound launcher) {event : LauncherEvent} (hfresh : launcher.Fresh event) :
    Sound (launcher.step event) := by
  cases event with
  | launch command answer => exact sound_launch h command hfresh
  | exited pid => exact sound_exited h pid

end ProcessLauncher

end MilterManager.Launcher
