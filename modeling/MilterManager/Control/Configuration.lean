import MilterManager.Control.Protocol
import MilterManager.Core.Ascii

/-!
# The configuration under control

What a control command does: the custom configuration file is saved in the first directory of the
load path where that is possible, and looked for in the first one where there is such a file; from
`milter/manager/milter-manager-configuration.c:992` and
`milter/manager/milter-manager-controller-context.c:93`. What the scripts of a configuration do is
left to the class of the configuration.
-/

namespace MilterManager.Control

open MilterManager.Base MilterManager.Core MilterManager.Codec

/-- A directory of the load path: what is in its regular files `milter-manager.conf` and
`milter-manager.custom.conf`, the full path of the latter, and the error that `g_file_set_contents`
has for it, if it cannot be written. -/
structure LoadPath where
  configFile : Option Bytes
  customFile : Option Bytes
  customPath : CString
  saveError : Option CString
deriving DecidableEq, Repr

/-- What a configuration class does; a function that can fail gives the code of its error. `clear`
is all that `milter_manager_configuration_clear` does. -/
structure ConfigurationClass (κ : Type) where
  clear : κ → κ × Option Int
  load : Option (Bytes → κ → κ × Option Int)
  loadCustom : Option (Bytes → κ → κ × Option Int)
  toXml : List LoadPath → κ → CString

/-- The load path, and what was configured. -/
structure Configuration (κ : Type) where
  loadPaths : List LoadPath
  value : κ

/-- `MILTER_MANAGER_CONFIGURATION_ERROR_NOT_IMPLEMENTED`. -/
def notImplementedError : Int := 0

/-- `MILTER_MANAGER_CONFIGURATION_ERROR_NOT_EXIST`. -/
def notExistError : Int := 1

/-- `find_file`, `milter/manager/milter-manager-configuration.c:992`, of the name of a configuration
file. -/
def findFile (file : LoadPath → Option Bytes) (loadPaths : List LoadPath) : Option LoadPath :=
  loadPaths.find? fun path => (file path).isSome

/-- The loop of `milter_manager_configuration_save_custom`: the load path behind it, what it notes
of the paths it tried, and whether it saved. -/
def saveCustomFrom (content : Bytes) : List LoadPath → List LoadPath × Bytes × Bool
  | [] => ([], [], false)
  | path :: paths =>
      let tried := ascii "\"" ++ path.customPath.bytes ++ ascii "\""
      match path.saveError with
      | none => ({ path with customFile := some content } :: paths, tried, true)
      | some message =>
          let rest := saveCustomFrom content paths
          let tried := tried ++ ascii "(" ++ message.bytes ++ ascii ")"
          let separator := if paths = [] then [] else ascii ", "
          (path :: rest.1, tried ++ separator ++ rest.2.1, rest.2.2)

/-- `milter_manager_configuration_save_custom`,
`milter/manager/milter-manager-configuration.c:1174`: the load path behind it, and the message of
the error. -/
def saveCustom (loadPaths : List LoadPath) (content : Bytes) : List LoadPath × Option CString :=
  let saved := saveCustomFrom content loadPaths
  if saved.2.2 then (saved.1, none)
  else
    (saved.1, some (.ofBytes (ascii "can't find writable custom configuration file in [" ++
      saved.2.1 ++ ascii "]")))

/-- What `g_file_set_contents` writes of a copy: as many bytes as it is told, from the heap where
the copy is shorter. -/
def written (heap : Bytes → Nat → UInt8) (copy : Bytes) (size : Int) : Bytes :=
  (Memory.mk (copy ++ [0]) (heap copy)).take size.toNat

theorem written_self (heap : Bytes → Nat → UInt8) (copy : Bytes) :
    written heap copy copy.length = copy := by
  rw [written, Int.toNat_natCast, Memory.take_eq]
  · exact List.take_left
  · show copy.length ≤ (copy ++ [0]).length
    rw [List.length_append]
    exact Nat.le_add_right _ _

namespace Configuration

variable {κ : Type} (functions : ConfigurationClass κ)

/-- `milter_manager_configuration_load` and `milter_manager_configuration_load_custom`,
`milter/manager/milter-manager-configuration.c:1046`, with the function of the class and the
file. -/
def loadBy (load : Option (Bytes → κ → κ × Option Int)) (file : LoadPath → Option Bytes)
    (configuration : Configuration κ) : Configuration κ × Option Int :=
  match load with
  | none => (configuration, some notImplementedError)
  | some load =>
      match (findFile file configuration.loadPaths).bind file with
      | none => (configuration, some notExistError)
      | some content =>
          let loaded := load content configuration.value
          ({ configuration with value := loaded.1 }, loaded.2)

/-- `milter_manager_configuration_load_custom_if_exist`,
`milter/manager/milter-manager-configuration.c:1122`: only the code of the error is looked at. -/
def loadCustomIfExist (configuration : Configuration κ) : Configuration κ × Option Int :=
  let loaded := configuration.loadBy functions.loadCustom LoadPath.customFile
  (loaded.1, loaded.2.filter (· ≠ notExistError))

/-- `milter_manager_configuration_reload`, `milter/manager/milter-manager-configuration.c:1142`:
what was done before an error stays. -/
def reload (configuration : Configuration κ) : Configuration κ × Option Int :=
  let cleared := functions.clear configuration.value
  let configuration := { configuration with value := cleared.1 }
  if cleared.2.isSome then (configuration, cleared.2)
  else
    let loaded := configuration.loadBy functions.load LoadPath.configFile
    if loaded.2.isSome then loaded else loaded.1.loadCustomIfExist functions

/-- A custom configuration is saved: the configuration and the reply. -/
def save (configuration : Configuration κ) (content : Bytes) : Configuration κ × ControlReply :=
  let saved := saveCustom configuration.loadPaths content
  ({ configuration with loadPaths := saved.1 },
    saved.2.elim .success fun message =>
      .error (.ofBytes (ascii "failed to save custom configuration file: " ++ message.bytes)))

/-- `cb_decoder_set_configuration`, `milter/manager/milter-manager-controller-context.c:93`, with
the heap around the copy that it is given. -/
def cbDecoderSetConfiguration (heap : Bytes → Nat → UInt8) (configuration : Configuration κ)
    (copy : Bytes) (size : Int) : Configuration κ × ControlReply :=
  configuration.save (written heap copy size)

/-- `cb_decoder_get_configuration`, `milter/manager/milter-manager-controller-context.c:146`. -/
def cbDecoderGetConfiguration (configuration : Configuration κ) : Configuration κ × ControlReply :=
  (configuration,
    .configuration (functions.toXml configuration.loadPaths configuration.value).bytes)

/-- `cb_decoder_reload`, `milter/manager/milter-manager-controller-context.c:179`: an error is only
logged. -/
def cbDecoderReload (configuration : Configuration κ) : Configuration κ × ControlReply :=
  ((configuration.reload functions).1, .success)

/-- `cb_decoder_get_status`, `milter/manager/milter-manager-controller-context.c:221`. -/
def cbDecoderGetStatus (configuration : Configuration κ) : Configuration κ × ControlReply :=
  (configuration, .status (ascii "FIXME"))

/-- The handler of the decoder for each signal. -/
def answer (heap : Bytes → Nat → UInt8) (configuration : Configuration κ) :
    ControlCommandSignal → Configuration κ × ControlReply
  | .setConfiguration copy size => configuration.cbDecoderSetConfiguration heap copy size
  | .getConfiguration => configuration.cbDecoderGetConfiguration functions
  | .reload => configuration.cbDecoderReload functions
  | .getStatus => configuration.cbDecoderGetStatus

/-- What each command is for. -/
def perform (configuration : Configuration κ) : ControlCommand → Configuration κ × ControlReply
  | .setConfiguration content => configuration.save content
  | .reload => configuration.cbDecoderReload functions
  | .getStatus => configuration.cbDecoderGetStatus

/-- The configuration behind some commands. -/
def after (configuration : Configuration κ) (commands : List ControlCommand) : Configuration κ :=
  stateAfter (perform functions) configuration commands

end Configuration

/-- The content that a command saves. -/
def contentOf : ControlCommand → Option Bytes
  | .setConfiguration content => some content
  | .reload | .getStatus => none

/-- The content of the last command that saves one. -/
def lastContent (commands : List ControlCommand) : Option Bytes :=
  (commands.filterMap contentOf).getLast?

/-- The first directory that can be written, with those in front of it. -/
structure Splits (loadPaths front : List LoadPath) (path : LoadPath) (back : List LoadPath) :
    Prop where
  paths : loadPaths = front ++ path :: back
  front : ∀ before ∈ front, before.saveError ≠ none
  writable : path.saveError = none

section Save

variable {κ : Type} {loadPaths front back : List LoadPath} {path : LoadPath}

/-- The directory with the custom configuration file. -/
def LoadPath.saved (path : LoadPath) (content : Bytes) : LoadPath :=
  { path with customFile := some content }

theorem saveCustomFrom_append (content : Bytes) (back : List LoadPath)
    (hfront : ∀ before ∈ front, before.saveError ≠ none) (hpath : path.saveError = none) :
    (saveCustomFrom content (front ++ path :: back)).1 = front ++ path.saved content :: back ∧
      (saveCustomFrom content (front ++ path :: back)).2.2 = true := by
  induction front with
  | nil =>
      rw [List.nil_append, saveCustomFrom]
      split
      · exact ⟨rfl, rfl⟩
      · next message hmessage =>
          rw [hpath] at hmessage
          cases hmessage
  | cons before front ih =>
      rcases List.forall_mem_cons.mp hfront with ⟨hbefore, hfront⟩
      rcases Option.ne_none_iff_exists'.mp hbefore with ⟨message, hmessage⟩
      rw [List.cons_append, saveCustomFrom, hmessage]
      exact ⟨congrArg (List.cons before) (ih hfront).1, (ih hfront).2⟩

/-- The file is saved in the first directory that can be written. -/
theorem saveCustom_of_splits (h : Splits loadPaths front path back) (content : Bytes) :
    saveCustom loadPaths content = (front ++ path.saved content :: back, none) := by
  rw [h.paths]
  have hfrom := saveCustomFrom_append content back h.front h.writable
  rw [saveCustom, if_pos hfrom.2, hfrom.1]

/-- Nothing is saved where no directory can be written. -/
theorem saveCustom_of_unwritable (h : ∀ path ∈ loadPaths, path.saveError ≠ none) (content : Bytes) :
    (saveCustom loadPaths content).1 = loadPaths ∧ (saveCustom loadPaths content).2 ≠ none := by
  have hfrom : (saveCustomFrom content loadPaths).1 = loadPaths ∧
      (saveCustomFrom content loadPaths).2.2 = false := by
    induction loadPaths with
    | nil => exact ⟨rfl, rfl⟩
    | cons path paths ih =>
        rcases Option.ne_none_iff_exists'.mp (h path List.mem_cons_self) with ⟨message, hmessage⟩
        have hrest := ih fun other hother => h other (List.mem_cons_of_mem path hother)
        rw [saveCustomFrom, hmessage]
        exact ⟨congrArg (List.cons path) hrest.1, hrest.2⟩
  rw [saveCustom, hfrom.2]
  exact ⟨hfrom.1, Option.some_ne_none _⟩

/-- Some directory can be written, or none. -/
theorem splits_or_unwritable (loadPaths : List LoadPath) :
    (∃ front path back, Splits loadPaths front path back) ∨
      ∀ path ∈ loadPaths, path.saveError ≠ none := by
  induction loadPaths with
  | nil => exact .inr fun path hpath => absurd hpath List.not_mem_nil
  | cons first rest ih =>
      cases hfirst : first.saveError with
      | none => exact .inl ⟨[], first, rest, rfl, fun _ h => absurd h List.not_mem_nil, hfirst⟩
      | some message =>
          have hne : first.saveError ≠ none := by
            rw [hfirst]
            exact Option.some_ne_none message
          rcases ih with ⟨front, path, back, hsplits⟩ | hall
          · refine .inl ⟨first :: front, path, back, ?_, ?_, hsplits.writable⟩
            · rw [hsplits.paths]
              rfl
            · exact List.forall_mem_cons.mpr ⟨hne, hsplits.front⟩
          · exact .inr (List.forall_mem_cons.mpr ⟨hne, hall⟩)

/-- A reload changes no file. -/
theorem loadPaths_reload (functions : ConfigurationClass κ) (configuration : Configuration κ) :
    (configuration.reload functions).1.loadPaths = configuration.loadPaths := by
  have hload (load : Option (Bytes → κ → κ × Option Int)) (file : LoadPath → Option Bytes)
      (configuration : Configuration κ) :
      (configuration.loadBy load file).1.loadPaths = configuration.loadPaths := by
    cases load with
    | none => rfl
    | some load =>
        rw [Configuration.loadBy]
        split <;> rfl
  rw [Configuration.reload]
  split
  · rfl
  · dsimp only
    split
    · exact hload _ _ _
    · exact (hload _ _ _).trans (hload _ _ _)

theorem lastContent_cons (command : ControlCommand) (commands : List ControlCommand) :
    lastContent (command :: commands) = (lastContent commands <|> contentOf command) := by
  rw [lastContent, lastContent, List.filterMap_cons]
  cases contentOf command with
  | none => cases (commands.filterMap contentOf).getLast? <;> rfl
  | some content =>
      dsimp only
      rw [List.getLast?_cons]
      cases (commands.filterMap contentOf).getLast? <;> rfl

variable (functions : ConfigurationClass κ) (commands : List ControlCommand)

/-- Only the file in the first directory that can be written changes. -/
theorem loadPaths_perform_of_splits {configuration : Configuration κ}
    (h : Splits configuration.loadPaths front path back) (command : ControlCommand) :
    (configuration.perform functions command).1.loadPaths =
      front ++ (contentOf command).elim path path.saved :: back := by
  cases command with
  | setConfiguration content =>
      show (saveCustom configuration.loadPaths content).1 = _
      rw [saveCustom_of_splits h]
      rfl
  | reload => exact (loadPaths_reload functions configuration).trans h.paths
  | getStatus => exact h.paths

theorem loadPaths_after_of_splits :
    ∀ {path : LoadPath} {configuration : Configuration κ},
      Splits configuration.loadPaths front path back →
      (configuration.after functions commands).loadPaths =
        front ++ (lastContent commands).elim path path.saved :: back := by
  induction commands with
  | nil => exact fun h => h.paths
  | cons command commands ih =>
      intro path configuration h
      have hperform := loadPaths_perform_of_splits functions h command
      rw [lastContent_cons]
      cases hcontent : contentOf command with
      | none =>
          rw [hcontent] at hperform
          apply (ih ⟨hperform, h.front, h.writable⟩).trans
          cases lastContent commands <;> rfl
      | some content =>
          rw [hcontent] at hperform
          apply (ih ⟨hperform, h.front, h.writable⟩).trans
          cases lastContent commands <;> rfl

/-- Where no directory can be written, the files stay as they are. -/
theorem loadPaths_after_of_unwritable {configuration : Configuration κ}
    (h : ∀ path ∈ configuration.loadPaths, path.saveError ≠ none) :
    (configuration.after functions commands).loadPaths = configuration.loadPaths := by
  induction commands generalizing configuration with
  | nil => rfl
  | cons command commands ih =>
      have hperform : (configuration.perform functions command).1.loadPaths =
          configuration.loadPaths := by
        cases command with
        | setConfiguration content => exact (saveCustom_of_unwritable h content).1
        | reload => exact loadPaths_reload functions configuration
        | getStatus => rfl
      apply (ih (by rw [hperform]; exact h)).trans hperform

/-- What was saved last is what a reload finds, exactly where some directory can be written and no
custom configuration file lies in front of it. -/
theorem findFile_after_iff (configuration : Configuration κ) {content : Bytes}
    (hlast : lastContent commands = some content) :
    (∃ path, findFile LoadPath.customFile (configuration.after functions commands).loadPaths =
        some path ∧ path.saveError = none ∧ path.customFile = some content) ↔
      ∃ front path back, Splits configuration.loadPaths front path back ∧
        ∀ before ∈ front, before.customFile = none := by
  constructor
  · rintro ⟨found, hfound, hwritable, hcontent⟩
    rcases splits_or_unwritable configuration.loadPaths with ⟨front, path, back, hsplits⟩ | hall
    · refine ⟨front, path, back, hsplits, fun before hbefore => ?_⟩
      rw [loadPaths_after_of_splits functions commands hsplits, findFile,
        List.find?_append] at hfound
      by_contra hfile
      have hisSome : before.customFile.isSome = true := Option.isSome_iff_ne_none.mpr hfile
      cases hfront : front.find? fun path => path.customFile.isSome with
      | none => exact absurd hisSome (List.find?_eq_none.mp hfront before hbefore)
      | some hidden =>
          rw [hfront] at hfound
          cases hfound
          exact hsplits.front found (List.mem_of_find?_eq_some hfront) hwritable
    · rw [loadPaths_after_of_unwritable functions commands hall] at hfound
      exact absurd hwritable (hall found (List.mem_of_find?_eq_some hfound))
  · rintro ⟨front, path, back, hsplits, hnone⟩
    refine ⟨path.saved content, ?_, hsplits.writable, rfl⟩
    rw [loadPaths_after_of_splits functions commands hsplits, hlast, findFile, List.find?_append]
    have hfront : (front.find? fun path => path.customFile.isSome) = none := by
      apply List.find?_eq_none.mpr
      intro before hbefore
      rw [hnone before hbefore]
      exact Bool.false_ne_true
    rw [hfront]
    rfl

end Save

end MilterManager.Control
