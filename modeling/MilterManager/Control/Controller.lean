import MilterManager.Agent.Link
import MilterManager.Base.Merge
import MilterManager.Control.Configuration
import MilterManager.Control.RoundTrip

/-!
# Controlling the manager

Any number of clients are connected to the controller. Each of them writes commands to its own
connection, and a context of its own reads and answers them; all contexts work on the one
configuration of the manager. From `milter/manager/milter-manager-controller.c:251` and
`milter/manager/milter-manager-controller-context.c`.
-/

namespace MilterManager.Control

open MilterManager.Base MilterManager.Core MilterManager.Codec MilterManager.Agent

/-- The connections of the clients, with the decoders of their contexts, the configuration, and the
replies that each context has written. -/
structure Controller (ι κ : Type) where
  links : ι → Link ControlCommandSignal
  configuration : Configuration κ
  replies : ι → List ControlReply

/-- A command of a client is carried out. -/
def serve {ι κ : Type} (functions : ConfigurationClass κ) (configuration : Configuration κ)
    (entry : ι × ControlCommand) : Configuration κ × ι × ControlReply :=
  ((configuration.perform functions entry.2).1, entry.1,
    (configuration.perform functions entry.2).2)

/-- What the handler does for the signal of a command is what the command is for. -/
theorem answer_signal {κ : Type} (functions : ConfigurationClass κ) (heap : Bytes → Nat → UInt8)
    (configuration : Configuration κ) (command : ControlCommand) :
    configuration.answer functions heap command.signal =
      configuration.perform functions command := by
  cases command with
  | setConfiguration content =>
      show configuration.save (written heap content content.length) = configuration.save content
      rw [written_self]
  | reload => rfl
  | getStatus => rfl

namespace Controller

variable {ι κ : Type} [DecidableEq ι] (functions : ConfigurationClass κ)
  (heap : Bytes → Nat → UInt8)

/-- The packets of the commands that a client is going to write. -/
def commandPackets (commands : List ControlCommand) : List (Bytes × ControlCommandSignal) :=
  (outputs ControlCommandEncoder.encode .init commands).zip (commands.map ControlCommand.signal)

/-- New connections, for what the clients are going to write. -/
def init (configuration : Configuration κ) (commands : ι → List ControlCommand) :
    Controller ι κ where
  links client := .init true (commandPackets (commands client))
  configuration := configuration
  replies _ := []

/-- A context answers a command. -/
def answer (s : Controller ι κ) (client : ι) (command : ControlCommandSignal) : Controller ι κ :=
  { s with
    configuration := (s.configuration.answer functions heap command).1
    replies := Function.update s.replies client
      (s.replies client ++ [(s.configuration.answer functions heap command).2]) }

/-- The connection of a client changes. -/
def withLink (s : Controller ι κ) (client : ι) (link : Link ControlCommandSignal) :
    Controller ι κ :=
  { s with links := Function.update s.links client link }

/-- Something happens on the connection of a client, and the commands that its context signals are
answered. -/
def step (s : Controller ι κ) (event : ι × LinkEvent) : Controller ι κ :=
  let link := (s.links event.1).step ControlCommandDecoder.decode event.2
  (link.signals.drop (s.links event.1).signals.length).foldl
    (fun s command => s.answer functions heap event.1 command) (s.withLink event.1 link)

/-- The manager is where these commands, carried out one by one, leave it: those of each client are
a beginning of its own and are what its context has read, and their replies went to it. -/
structure Serial (configuration : Configuration κ) (commands : ι → List ControlCommand)
    (s : Controller ι κ) (order : List (ι × ControlCommand)) : Prop where
  beginning : ∀ client, partOf client order <+: commands client
  signals : ∀ client, (s.links client).signals = (partOf client order).map ControlCommand.signal
  state : s.configuration = stateAfter (serve functions) configuration order
  replies : ∀ client,
    s.replies client = partOf client (outputs (serve functions) configuration order)

/-- The commands were carried out one by one in some order, and all that a client wrote is among
them when nothing is on its way. -/
structure Serializable (configuration : Configuration κ) (commands : ι → List ControlCommand)
    (s : Controller ι κ) : Prop where
  order : ∃ order, Serial functions configuration commands s order
  delivers : ∀ client, (s.links client).Delivers

theorem commandPackets_eq (commands : List ControlCommand) :
    commandPackets commands =
      Link.packetsOf (commands.map fun command => (command.content, command.signal)) := by
  rw [commandPackets, outputs_eq_map ControlCommand.encode_snd, Link.packetsOf, List.map_map,
    List.zip_map']
  rfl

section Steps

variable {functions} {configuration : Configuration κ} {s : Controller ι κ}
  {order : List (ι × ControlCommand)}

/-- The configuration and the replies are those behind these commands. -/
def Performed (functions : ConfigurationClass κ) (configuration : Configuration κ)
    (s : Controller ι κ) (order : List (ι × ControlCommand)) : Prop :=
  s.configuration = stateAfter (serve functions) configuration order ∧
    ∀ client, s.replies client = partOf client (outputs (serve functions) configuration order)

/-- The answer to a command of one client comes behind all others. -/
theorem performed_answer (h : Performed functions configuration s order) (client : ι)
    (command : ControlCommand) :
    Performed functions configuration (s.answer functions heap client command.signal)
      (order ++ givenBy client [command]) := by
  rcases h with ⟨hconfiguration, hreplies⟩
  constructor
  · rw [stateAfter_append, ← hconfiguration]
    exact congrArg Prod.fst (answer_signal functions heap s.configuration command)
  · intro other
    show Function.update s.replies client _ other = _
    have houtput : outputs (serve functions) s.configuration (givenBy client [command]) =
        givenBy client [(s.configuration.perform functions command).2] := rfl
    rw [outputs_append, ← hconfiguration, houtput, partOf_append, ← hreplies, answer_signal]
    by_cases hother : other = client
    · rw [hother, Function.update_self, partOf_givenBy]
    · rw [Function.update_of_ne hother, partOf_givenBy_of_ne fun heq => hother heq.symm,
        List.append_nil]

theorem performed_foldl (client : ι) (commands : List ControlCommand) :
    ∀ {s : Controller ι κ} {order : List (ι × ControlCommand)},
      Performed functions configuration s order →
      Performed functions configuration
        ((commands.map ControlCommand.signal).foldl
          (fun s command => s.answer functions heap client command) s)
        (order ++ givenBy client commands) := by
  induction commands with
  | nil =>
      intro s order h
      show Performed functions configuration s (order ++ [])
      rw [List.append_nil]
      exact h
  | cons command commands ih =>
      intro s order h
      have hnext := ih (performed_answer heap h client command)
      rw [List.append_assoc] at hnext
      exact hnext

theorem links_foldl (client : ι) (signals : List ControlCommandSignal) (s : Controller ι κ) :
    (signals.foldl (fun s command => s.answer functions heap client command) s).links =
      s.links := by
  induction signals generalizing s with
  | nil => rfl
  | cons signal signals ih => exact ih _

theorem links_step (s : Controller ι κ) (event : ι × LinkEvent) (client : ι) :
    (s.step functions heap event).links client =
      if client = event.1 then (s.links client).step ControlCommandDecoder.decode event.2
      else s.links client := by
  rw [step, links_foldl]
  show Function.update s.links event.1 _ client = _
  by_cases hclient : client = event.1
  · rw [if_pos hclient, hclient, Function.update_self]
  · rw [if_neg hclient, Function.update_of_ne hclient]

/-- The contents of the packets of a client. -/
def messagesOf (commands : List ControlCommand) : List (Bytes × ControlCommandSignal) :=
  commands.map fun command => (command.content, command.signal)

/-- What has come through are the signals of the next commands. -/
theorem exists_more {messages : List ControlCommand} {link : Link ControlCommandSignal}
    (h : Link.Inv (messagesOf messages) link) {done : List ControlCommand}
    (hdone : done <+: messages) {new : List ControlCommandSignal}
    (hsignals : link.signals = done.map ControlCommand.signal ++ new) :
    ∃ more, done ++ more <+: messages ∧ new = more.map ControlCommand.signal := by
  rcases h.sent with ⟨sent, unsent, hmessages, _, _, _, read, rest, _, hsent, hread, _⟩
  rcases hdone with ⟨later, rfl⟩
  have hprefix : link.signals <+: (done ++ later).map ControlCommand.signal := by
    have hall : (messagesOf (done ++ later)).map Prod.snd =
        (done ++ later).map ControlCommand.signal := List.map_map
    rw [← hall, hmessages, hsent, hread, List.append_assoc, List.map_append]
    exact List.prefix_append _ _
  rw [hsignals, List.map_append, List.prefix_append_right_inj] at hprefix
  rcases List.prefix_map_iff.mp hprefix with ⟨more, hmore, hnew⟩
  exact ⟨more, (List.prefix_append_right_inj done).mpr hmore, hnew⟩

variable {commands : ι → List ControlCommand}

/-- Whatever happens on one connection, the commands that come through are carried out behind all
others. -/
theorem serial_step (h : Serial functions configuration commands s order)
    (event : ι × LinkEvent)
    (hlink : Link.Inv (messagesOf (commands event.1))
      ((s.links event.1).step ControlCommandDecoder.decode event.2)) :
    ∃ order, Serial functions configuration commands (s.step functions heap event) order := by
  rcases Link.signals_step ControlCommandDecoder.decode (s.links event.1) event.2 with ⟨new, hnew⟩
  have hall := hnew.symm
  rw [h.signals] at hall
  rcases exists_more hlink (h.beginning event.1) hall with ⟨more, hmore, rfl⟩
  have hpart (client : ι) : partOf client (order ++ givenBy event.1 more) =
      partOf client order ++ if client = event.1 then more else [] := by
    rw [partOf_append]
    by_cases hclient : client = event.1
    · rw [if_pos hclient, hclient, partOf_givenBy]
    · rw [if_neg hclient, partOf_givenBy_of_ne fun heq => hclient heq.symm]
  have hperformed : Performed functions configuration (s.step functions heap event)
      (order ++ givenBy event.1 more) := by
    rw [step, ← hnew, List.drop_left]
    exact performed_foldl heap event.1 more ⟨h.state, h.replies⟩
  refine ⟨order ++ givenBy event.1 more, ?_, ?_, hperformed.1, hperformed.2⟩
  · intro client
    rw [hpart]
    split
    · next hclient => exact hclient ▸ hmore
    · rw [List.append_nil]
      exact h.beginning client
  · intro client
    rw [hpart, links_step]
    split
    · next hclient =>
        rw [hclient, hall]
        exact List.map_append.symm
    · rw [List.append_nil]
      exact h.signals client

theorem serial_init (functions : ConfigurationClass κ) (configuration : Configuration κ)
    (commands : ι → List ControlCommand) :
    Serial functions configuration commands (init configuration commands) [] :=
  ⟨fun _ => List.nil_prefix, fun _ => rfl, rfl, fun _ => rfl⟩

/-- What holds in every run: each connection carries what its client writes, and what came through
was carried out one by one. -/
def Inv (functions : ConfigurationClass κ) (configuration : Configuration κ)
    (commands : ι → List ControlCommand) (s : Controller ι κ) : Prop :=
  (∀ client, Link.Inv (messagesOf (commands client)) (s.links client)) ∧
    ∃ order, Serial functions configuration commands s order

/-- Each configuration is short enough and without a NUL. -/
def Transmissible (commands : List ControlCommand) : Prop :=
  ∀ command ∈ commands, command.NullFree ∧ command.content.length < shortLength

theorem separate_of_transmissible {commands : List ControlCommand} (h : Transmissible commands) :
    Separate ControlCommandDecoder.decode (messagesOf commands) := by
  apply Link.separate_of_emits
  intro message hmessage
  rcases List.mem_map.mp hmessage with ⟨command, hcommand, rfl⟩
  exact ⟨(h command hcommand).2, command.emitsBeforeNull (h command hcommand).1⟩

theorem inv_init (functions : ConfigurationClass κ) (configuration : Configuration κ)
    (commands : ι → List ControlCommand) :
    Inv functions configuration commands (init configuration commands) := by
  refine ⟨fun client => ?_, [], serial_init functions configuration commands⟩
  show Link.Inv _ (Link.init true (commandPackets (commands client)))
  rw [commandPackets_eq]
  exact Link.inv_init true (messagesOf (commands client))

theorem inv_step (hcommands : ∀ client, Transmissible (commands client))
    (h : Inv functions configuration commands s) (event : ι × LinkEvent) :
    Inv functions configuration commands (s.step functions heap event) := by
  rcases h with ⟨hlinks, order, hserial⟩
  have hstep (client : ι) := Link.inv_step
    (separate_of_transmissible (hcommands client)) (hlinks client) event.2
  refine ⟨fun client => ?_, serial_step heap hserial event (hstep event.1)⟩
  rw [links_step]
  split
  · exact hstep client
  · exact hlinks client

theorem inv_foldl (hcommands : ∀ client, Transmissible (commands client))
    (h : Inv functions configuration commands s) (events : List (ι × LinkEvent)) :
    Inv functions configuration commands (events.foldl (step functions heap) s) := by
  induction events generalizing s with
  | nil => exact h
  | cons event events ih => exact ih (inv_step heap hcommands h event)

omit [DecidableEq ι] in
theorem stateAfter_serve (configuration : Configuration κ) (order : List (ι × ControlCommand)) :
    stateAfter (serve functions) configuration order =
      configuration.after functions (order.map Prod.snd) := by
  rw [Configuration.after, stateAfter, stateAfter, List.foldl_map]
  rfl

end Steps

/-- However the clients and their connections interleave, what the controller does is what it would
do for the commands one by one. -/
theorem serializable (configuration : Configuration κ) (commands : ι → List ControlCommand)
    (hcommands : ∀ client, Transmissible (commands client)) (events : List (ι × LinkEvent)) :
    Along (step functions heap)
      (fun s event =>
        Serializable functions configuration commands (s.step functions heap event))
      (init configuration commands) events := by
  apply @Along.of_invariant _ _ (step functions heap) (Inv functions configuration commands)
    (fun _ _ => True)
  · intro s event hinv _
    have hnext := inv_step heap hcommands hinv event
    exact ⟨hnext, hnext.2, fun client =>
      (hnext.1 client).delivers (separate_of_transmissible (hcommands client))⟩
  · exact inv_init functions configuration commands
  · exact Along.of_forall (fun _ _ => trivial) _ _

/-- The configuration that some client has set last is what a reload is going to find, exactly where
a directory can be written and no custom configuration file lies in one in front of it; the reply
does not tell. -/
theorem found_iff (configuration : Configuration κ) (commands : ι → List ControlCommand)
    (hcommands : ∀ client, Transmissible (commands client)) (events : List (ι × LinkEvent)) :
    ∃ order, Serial functions configuration commands
        (events.foldl (step functions heap) (init configuration commands)) order ∧
      ∀ content, lastContent (order.map Prod.snd) = some content →
        ((∃ path, findFile LoadPath.customFile (events.foldl (step functions heap)
              (init configuration commands)).configuration.loadPaths = some path ∧
            path.saveError = none ∧ path.customFile = some content) ↔
          ∃ front path back, Splits configuration.loadPaths front path back ∧
            ∀ before ∈ front, before.customFile = none) := by
  rcases inv_foldl heap hcommands (inv_init functions configuration commands) events with
    ⟨_, order, hserial⟩
  refine ⟨order, hserial, fun content hlast => ?_⟩
  rw [hserial.state, stateAfter_serve]
  exact findFile_after_iff functions _ configuration hlast

/-- A class whose scripts keep what they read. -/
def sampleFunctions : ConfigurationClass Bytes where
  clear _ := ([], none)
  load := some fun content _ => (content, none)
  loadCustom := some fun content value => (value ++ content, none)
  toXml _ _ := .empty

/-- One directory, which can be written. -/
def sampleConfiguration : Configuration Bytes :=
  ⟨[⟨some [98], none, .ofBytes [47, 99], none⟩], []⟩

/-- One client sets the configuration, the other one has it read. -/
def sampleCommands (client : Bool) : List ControlCommand :=
  if client then [.setConfiguration [97]] else [.reload]

/-- The command to reload is read in two parts. -/
def sampleEvents : List (Bool × LinkEvent) :=
  [(true, .start), (false, .start), (false, .call (.send true)), (false, .writable 100),
    (false, .read 5 fun _ _ => 0), (true, .call (.send true)), (true, .writable 100),
    (true, .read 100 fun _ _ => 0), (false, .read 100 fun _ _ => 0)]

/-- The commands of both are short and have no NUL. -/
theorem transmissible_sampleCommands (client : Bool) : Transmissible (sampleCommands client) := by
  intro command hcommand
  cases client with
  | false =>
      cases List.mem_singleton.mp hcommand
      exact ⟨trivial, by decide⟩
  | true =>
      cases List.mem_singleton.mp hcommand
      exact ⟨fun hnull => absurd hnull (by decide), by decide⟩

theorem serializable_two :
    Along (step sampleFunctions fun _ _ => 0)
      (fun s event => Serializable sampleFunctions sampleConfiguration sampleCommands
        (s.step sampleFunctions (fun _ _ => 0) event))
      (init sampleConfiguration sampleCommands) sampleEvents :=
  serializable _ _ _ _ transmissible_sampleCommands _

theorem found_two :
    ∃ order, Serial sampleFunctions sampleConfiguration sampleCommands
        (sampleEvents.foldl (step sampleFunctions fun _ _ => 0)
          (init sampleConfiguration sampleCommands)) order ∧
      ∀ content, lastContent (order.map Prod.snd) = some content →
        ((∃ path, findFile LoadPath.customFile (sampleEvents.foldl
              (step sampleFunctions fun _ _ => 0)
              (init sampleConfiguration sampleCommands)).configuration.loadPaths = some path ∧
            path.saveError = none ∧ path.customFile = some content) ↔
          ∃ front path back, Splits sampleConfiguration.loadPaths front path back ∧
            ∀ before ∈ front, before.customFile = none) :=
  found_iff _ _ _ _ transmissible_sampleCommands _

/-- The configuration set by one client is there when the other one reloads. -/
example : (sampleEvents.foldl (step sampleFunctions fun _ _ => 0)
    (init sampleConfiguration sampleCommands)).configuration.value = [98, 97] := by decide

end Controller

end MilterManager.Control
