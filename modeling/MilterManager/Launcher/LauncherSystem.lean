import MilterManager.Agent.SharedChannel
import MilterManager.Launcher.ProcessLauncher

/-!
# The leaders and the launcher

A child that cannot be reached is started: its leader writes a launch command to the pipe that all
leaders share, and goes on without waiting for the reply; from
`milter/manager/milter-manager-children.c:2520` and
`milter/manager/milter-manager-process-launcher.c:394`. The launcher is another process; what it
reads at a time, when processes exit and when leaders go is left to the run.
-/

namespace MilterManager.Launcher

open MilterManager.Base MilterManager.Core MilterManager.Codec MilterManager.Control
open MilterManager.Agent

/-- What a child is started with: its `command`, `command_options` and `user_name`. -/
structure ChildCommand where
  command : Option CString
  commandOptions : Option CString
  userName : Option CString

/-- `milter_manager_child_get_command_line_string`, `milter/manager/milter-manager-child.c:291`. -/
def ChildCommand.getCommandLineString (child : ChildCommand) : Option CString :=
  child.command.map fun command =>
    child.commandOptions.elim command fun options =>
      .ofBytes (command.bytes ++ ascii " " ++ options.bytes)

/-- The content of a launch command, and what it stands for. -/
def launchMessage (commandLine : CString) (userName : Option CString) : Bytes × LaunchSignal :=
  (tagged launchTag (commandLine.bytes ++ 0 :: userName.elim [] CString.bytes),
    ⟨commandLine, userName⟩)

/-- The new encoder of `milter_manager_children_start_child` packs this content. -/
example (commandLine : CString) (userName : Option CString) :
    (LaunchCommandEncoder.encodeLaunch .init commandLine userName).2 =
      frame (launchMessage commandLine userName).1 := rfl

/-- The leaders with the pipe to the launcher, and the launcher. -/
structure LauncherSystem (ι : Type) where
  pipe : SharedChannel ι LaunchSignal
  launcher : ProcessLauncher

/-- What happens: a leader starts a child, its writer writes or flushes, it is disposed of; the
launcher reads the pipe, while the system answers to what it launches; or a process exits. -/
inductive SystemEvent (ι : Type) where
  | startChild (leader : ι) (child : ChildCommand)
  | writable (leader : ι) (size : Nat)
  | flushed (leader : ι)
  | dispose (leader : ι)
  | read (size : Nat) (residue : Residue) (answers : Nat → HostAnswer)
  | exited (pid : Nat)

/-- The pipe takes bytes or gives some. -/
def SystemEvent.IsTransfer {ι : Type} : SystemEvent ι → Prop
  | .writable _ _ | .read _ _ _ => True
  | _ => False

/-- The event, where the system answers in this way. -/
def SystemEvent.answeredBy {ι : Type} (answers : Nat → HostAnswer) : SystemEvent ι → SystemEvent ι
  | .read size residue _ => .read size residue answers
  | event => event

/-- The commands that a read signals, with the answers of the system. -/
def launches (commands : List LaunchSignal) (answers : Nat → HostAnswer) : List LauncherEvent :=
  commands.zipIdx.map fun entry => .launch entry.1 (answers entry.2)

namespace LauncherSystem

variable {ι : Type} [DecidableEq ι]

/-- No command was written; some leaders have the channels of the launcher. -/
def init (ready : ι → Bool) : LauncherSystem ι := ⟨.init ready, .init⟩

/-- `milter_manager_children_start_child`, `milter/manager/milter-manager-children.c:2520`. -/
def startChild (s : LauncherSystem ι) (leader : ι) (child : ChildCommand) : LauncherSystem ι :=
  match child.getCommandLineString with
  | none => s
  | some commandLine =>
      { s with pipe := s.pipe.send leader (launchMessage commandLine child.userName) }

/-- The commands that the launcher finds in what it reads. -/
def commandsRead (s : LauncherSystem ι) (size : Nat) (residue : Residue) : List LaunchSignal :=
  (s.pipe.read LaunchCommandDecoder.decode size residue).signals.drop s.pipe.signals.length

/-- The launcher reads, and `cb_decoder_launch` is called for each command. -/
def read (s : LauncherSystem ι) (size : Nat) (residue : Residue) (answers : Nat → HostAnswer) :
    LauncherSystem ι where
  pipe := s.pipe.read LaunchCommandDecoder.decode size residue
  launcher := (launches (s.commandsRead size residue) answers).foldl ProcessLauncher.step s.launcher

/-- One event. -/
def step (s : LauncherSystem ι) : SystemEvent ι → LauncherSystem ι
  | .startChild leader child => s.startChild leader child
  | .writable leader size => { s with pipe := s.pipe.writable leader size }
  | .flushed leader => { s with pipe := s.pipe.flushed leader }
  | .dispose leader => { s with pipe := s.pipe.update leader none }
  | .read size residue answers => s.read size residue answers
  | .exited pid => { s with launcher := s.launcher.childWatchFunc pid }

end LauncherSystem

/-- A packet that carries a launch command. -/
def Launchable (message : Bytes × LaunchSignal) : Prop :=
  ∃ command : LaunchCommand, message = (command.content, command.signal) ∧
    command.userName ≠ some .empty ∧ command.content.length < 0x1000000

namespace LauncherSystem

variable {ι : Type} [DecidableEq ι]

/-- What the leaders and the system can be relied on for: the commands have a command line, and no
name of a user that is empty; the pipe takes the buffer of a writer whole or not at all; and a
process has the number of no other one that runs. -/
def Orderly (s : LauncherSystem ι) : SystemEvent ι → Prop
  | .startChild _ child => ∀ commandLine, child.getCommandLineString = some commandLine →
      Launchable (launchMessage commandLine child.userName)
  | .writable leader size => ∀ writer, s.pipe.writers leader = some writer →
      size = 0 ∨ writer.buffer.length ≤ size
  | .read size residue answers => Along ProcessLauncher.step ProcessLauncher.Fresh s.launcher
      (launches (s.commandsRead size residue) answers)
  | _ => True

/-- The commands that a leader has written. -/
def asked (s : LauncherSystem ι) (leader : ι) : List LaunchSignal :=
  (s.pipe.sent leader).map Prod.snd

/-- The commands that the launcher has answered. -/
def answeredCommands (s : LauncherSystem ι) : List LaunchSignal :=
  s.launcher.log.filterMap Occurrence.command

/-- The launcher is sound. It has answered the commands of every leader in their order, each once,
and all of those of a leader whose writer has nothing to write, when the pipe is read. -/
structure Serves (s : LauncherSystem ι) : Prop where
  sound : Sound s.launcher
  merge : ∃ merge : List (ι × LaunchSignal), s.answeredCommands = merge.map Prod.snd ∧
    (∀ leader, partOf leader merge <+: s.asked leader) ∧
    (s.pipe.readSize = s.pipe.channel.length → ∀ leader, s.pipe.Idle leader →
      partOf leader merge = s.asked leader)
  error : s.pipe.error = none
  outcome : s.pipe.outcome = .success

/-- In a run the launcher serves the leaders after every event; and whatever the system answers, the
pipe can take and give bytes so that all commands of some leaders that are there are answered. -/
structure Served (s : LauncherSystem ι) (events : List (SystemEvent ι)) : Prop where
  serves : Along step (fun s event => Serves (s.step event)) s events
  drains : ∀ leaders : List ι, ∃ transfers : List (SystemEvent ι),
    (∀ event ∈ transfers, event.IsTransfer) ∧ ∀ answers : Nat → HostAnswer,
      ∃ merge : List (ι × LaunchSignal),
        ((transfers.map (SystemEvent.answeredBy answers)).foldl step
          (events.foldl step s)).answeredCommands = merge.map Prod.snd ∧
        ∀ leader ∈ leaders, ((events.foldl step s).pipe.writers leader).isSome = true →
          partOf leader merge = (events.foldl step s).asked leader

theorem separate_of_launchable (messages : List (Bytes × LaunchSignal))
    (h : ∀ message ∈ messages, Launchable message) :
    Separate LaunchCommandDecoder.decode messages := by
  have hcommands : ∃ commands : List LaunchCommand,
      messages = commands.map (fun command => (command.content, command.signal)) ∧
        ∀ command ∈ commands, command.userName ≠ some .empty ∧
          command.content.length < 0x1000000 := by
    induction messages with
    | nil => exact ⟨[], rfl, fun command hcommand => absurd hcommand List.not_mem_nil⟩
    | cons message messages ih =>
        rcases h message List.mem_cons_self with ⟨command, rfl, hcommand⟩
        rcases ih fun other hother => h other (List.mem_cons_of_mem _ hother) with
          ⟨commands, rfl, hall⟩
        refine ⟨command :: commands, rfl, fun other hother => ?_⟩
        rcases List.mem_cons.mp hother with rfl | hother
        · exact hcommand
        · exact hall other hother
  rcases hcommands with ⟨commands, rfl, hall⟩
  apply (separate_map_iff LaunchCommand.emitsBefore_iff commands).mpr
  constructor
  · intro command hcommand
    refine ⟨(hall command hcommand).2.trans ?_, (hall command hcommand).1⟩
    rw [lengthLimit]
    decide
  · apply List.Pairwise.isChain
    apply List.pairwise_of_forall_mem_list
    intro command _ next hnext _
    exact (hall next hnext).2

section Steps

variable {s : LauncherSystem ι}

theorem answeredCommands_launches (launcher : ProcessLauncher) (commands : List LaunchSignal)
    (answers : Nat → HostAnswer) (n : Nat) :
    (((commands.zipIdx n).map fun entry => LauncherEvent.launch entry.1 (answers entry.2)).foldl
        ProcessLauncher.step launcher).log.filterMap Occurrence.command =
      launcher.log.filterMap Occurrence.command ++ commands := by
  induction commands generalizing launcher n with
  | nil => exact (List.append_nil _).symm
  | cons command commands ih =>
      rw [List.zipIdx_cons, List.map_cons, List.foldl_cons, ih]
      show (launcher.log ++ [Occurrence.answered command _]).filterMap _ ++ commands = _
      rw [List.filterMap_append, List.append_assoc]
      rfl

/-- What the launcher has answered is what it found in the pipe. -/
theorem answeredCommands_step (h : s.answeredCommands = s.pipe.signals) (event : SystemEvent ι) :
    (s.step event).answeredCommands = (s.step event).pipe.signals := by
  cases event with
  | startChild leader child =>
      rw [step, startChild]
      split
      · exact h
      · rw [SharedChannel.signals_send]
        exact h
  | writable leader size =>
      show s.answeredCommands = (s.pipe.writable leader size).signals
      rw [SharedChannel.signals_writable, h]
  | flushed leader => exact h
  | dispose leader => exact h
  | read size residue answers =>
      apply (answeredCommands_launches s.launcher (s.commandsRead size residue) answers 0).trans
      show s.answeredCommands ++ List.drop s.pipe.signals.length (s.pipe.signals ++ _) =
        s.pipe.signals ++ _
      rw [h, List.drop_left]
  | exited pid =>
      show (s.launcher.log ++ [Occurrence.exited pid]).filterMap Occurrence.command = _
      rw [List.filterMap_append]
      exact (List.append_nil _).trans h

/-- What holds of the leaders and the launcher in every orderly run. -/
structure Inv (s : LauncherSystem ι) : Prop where
  pipe : s.pipe.Inv Launchable
  sound : Sound s.launcher
  answered : s.answeredCommands = s.pipe.signals

theorem inv_init (ready : ι → Bool) : Inv (init ready) where
  pipe := SharedChannel.inv_init _ _
  sound := ProcessLauncher.sound_init
  answered := rfl

theorem sound_along {launcher : ProcessLauncher} (h : Sound launcher) (events : List LauncherEvent)
    (hfresh : Along ProcessLauncher.step ProcessLauncher.Fresh launcher events) :
    Sound (events.foldl ProcessLauncher.step launcher) := by
  induction events generalizing launcher with
  | nil => exact h
  | cons event events ih => exact ih (ProcessLauncher.sound_step h hfresh.1) hfresh.2

theorem inv_step (h : Inv s) {event : SystemEvent ι} (horderly : s.Orderly event) :
    Inv (s.step event) where
  pipe := by
    cases event with
    | startChild leader child =>
        rw [step, startChild]
        cases hline : child.getCommandLineString with
        | none => exact h.pipe
        | some commandLine =>
            exact SharedChannel.inv_send h.pipe leader (horderly commandLine hline)
    | writable leader size => exact SharedChannel.inv_writable h.pipe leader horderly
    | flushed leader => exact SharedChannel.inv_flushed h.pipe leader
    | dispose leader => exact SharedChannel.inv_leave h.pipe leader
    | read size residue answers =>
        exact SharedChannel.inv_read separate_of_launchable h.pipe size residue
    | exited pid => exact h.pipe
  sound := by
    cases event with
    | startChild leader child =>
        rw [step, startChild]
        split <;> exact h.sound
    | writable leader size => exact h.sound
    | flushed leader => exact h.sound
    | dispose leader => exact h.sound
    | read size residue answers => exact sound_along h.sound _ horderly
    | exited pid => exact ProcessLauncher.sound_exited h.sound pid
  answered := answeredCommands_step h.answered event

theorem inv_along (h : Inv s) {events : List (SystemEvent ι)}
    (horderly : Along step Orderly s events) : Inv (events.foldl step s) := by
  induction events generalizing s with
  | nil => exact h
  | cons event events ih => exact ih (inv_step h horderly.1) horderly.2

theorem answered_along (h : s.answeredCommands = s.pipe.signals) (events : List (SystemEvent ι)) :
    (events.foldl step s).answeredCommands = (events.foldl step s).pipe.signals := by
  induction events generalizing s with
  | nil => exact h
  | cons event events ih => exact ih (answeredCommands_step h event)

theorem Inv.serves (h : Inv s) : Serves s where
  sound := h.sound
  merge := by
    rw [h.answered]
    exact (h.pipe.merges separate_of_launchable).merge
  error := h.pipe.error
  outcome := h.pipe.outcome

end Steps

/-- Steps of the pipe are taken by the leaders and the launcher, whatever the system answers. -/
theorem exists_transfers (transfers : List (SharedEvent ι LaunchSignal))
    (h : ∀ event ∈ transfers, event.IsTransfer) :
    ∃ events : List (SystemEvent ι), (∀ event ∈ events, event.IsTransfer) ∧
      ∀ (answers : Nat → HostAnswer) (s : LauncherSystem ι),
        ((events.map (SystemEvent.answeredBy answers)).foldl step s).pipe =
          transfers.foldl (SharedChannel.step LaunchCommandDecoder.decode) s.pipe := by
  induction transfers with
  | nil => exact ⟨[], fun event hevent => absurd hevent List.not_mem_nil, fun _ _ => rfl⟩
  | cons transfer transfers ih =>
      rcases ih fun event hevent => h event (List.mem_cons_of_mem _ hevent) with
        ⟨events, honly, hpipe⟩
      have hfirst := h transfer List.mem_cons_self
      cases transfer with
      | writable leader size =>
          refine ⟨.writable leader size :: events, ?_, fun answers s => hpipe answers _⟩
          exact List.forall_mem_cons.mpr ⟨trivial, honly⟩
      | read size residue =>
          refine ⟨.read size residue (fun _ => ⟨.ok (), .ok (), .ok 0⟩) :: events, ?_,
            fun answers s => hpipe answers _⟩
          exact List.forall_mem_cons.mpr ⟨trivial, honly⟩
      | send leader message => exact hfirst.elim
      | flushed leader => exact hfirst.elim
      | leave leader => exact hfirst.elim

/-- However many leaders start children, at most one process runs for a command line, and every
command that reaches the launcher is answered once, in the order in which its leader wrote it. -/
theorem served_of_orderly (ready : ι → Bool) (events : List (SystemEvent ι))
    (h : Along step Orderly (init ready) events) : Served (init ready) events where
  serves := by
    apply Along.of_invariant _ (inv_init ready) h
    intro s event hinv horderly
    have hnext := inv_step hinv horderly
    exact ⟨hnext, hnext.serves⟩
  drains := by
    intro leaders
    have hinv : Inv (events.foldl step (init ready)) := inv_along (inv_init ready) h
    rcases SharedChannel.exists_drained separate_of_launchable hinv.pipe leaders with
      ⟨transfers, honly, hsent, merge, hsignals, hall⟩
    rcases exists_transfers transfers honly with ⟨steps, hsteps, hpipe⟩
    refine ⟨steps, hsteps, fun answers => ⟨merge, ?_, hall⟩⟩
    rw [answered_along hinv.answered, hpipe, hsignals]

/-- `a`, for no user. -/
def sampleChild : ChildCommand := ⟨some (.ofBytes [97]), none, none⟩

/-- The users are there, the command lines can be read, and the processes are numbered. -/
def sampleAnswers (n : Nat) : HostAnswer := ⟨.ok (), .ok (), .ok n⟩

/-- Two leaders start the same child, and the launcher reads both commands at once. -/
def sampleEvents : List (SystemEvent Bool) :=
  [.startChild false sampleChild, .startChild true sampleChild, .writable true 100,
    .writable false 100, .read 100 (fun _ _ => 0) sampleAnswers]

theorem served_of_orderly_two : Served (init fun _ => true) sampleEvents := by
  apply served_of_orderly
  have hlaunchable : ∀ commandLine, sampleChild.getCommandLineString = some commandLine →
      Launchable (launchMessage commandLine sampleChild.userName) := by
    rintro _ ⟨⟩
    exact ⟨⟨.ofBytes [97], by decide, none⟩, rfl, by decide, by decide⟩
  refine ⟨hlaunchable, hlaunchable, ?_, ?_, ?_, trivial⟩
  · rintro writer ⟨⟩
    exact .inr (by decide)
  · rintro writer ⟨⟩
    exact .inr (by decide)
  · show Along _ _ _ (launches [⟨.ofBytes [97], none⟩, ⟨.ofBytes [97], none⟩] sampleAnswers)
    refine ⟨?_, ?_, trivial⟩
    · rintro pid _ data hdata
      exact absurd hdata List.not_mem_nil
    · rintro _ ⟨⟩ data hdata
      cases List.mem_singleton.mp hdata
      decide

end LauncherSystem

end MilterManager.Launcher
