import Highlighter.Rule.Keyword
import Highlighter.Value.Shown

/-!
# Settings

The settings of a session: how long it waits after a change, where profiles are looked up, and
whether snippets are normalized. Settings are taken as they are given; a value of an unfitting kind
shows only when it is used.

Main definitions: `Settings`, `Settings.ofEntries`, `SettingsStep.run`.
-/

namespace Highlighter

/-- The place of the built-in profiles. -/
def builtinBase : String := "<builtin>"

/-- The settings of a session. -/
structure Settings where
  debounceDelay : Value := .float 0.01
  profileBase : Value := .null
  profileExtension : Value := .text "py"
  normalize : Value := .bool true

namespace Settings

/-- Changes the setting of a name; an unknown name changes nothing. -/
def set (settings : Settings) (name : String) (value : Value) : Settings :=
  match name with
  | "debounce_delay" => { settings with debounceDelay := value }
  | "profile_base" => { settings with profileBase := value }
  | "profile_extension" => { settings with profileExtension := value }
  | "normalize" => { settings with normalize := value }
  | _ => settings

/-- The default settings with the given changes. -/
def ofEntries (entries : List (String × Value)) : Settings :=
  entries.foldl (fun settings entry => settings.set entry.1 entry.2) {}

/-- Where profiles are looked up. -/
def baseLocation (settings : Settings) : Value :=
  match settings.profileBase with
  | .null => .text builtinBase
  | base => base

/-- Whether snippets are normalized. -/
def normalizes (settings : Settings) : Bool :=
  !settings.normalize.isNothing

/-- How many seconds a session waits after a change. -/
def delay (settings : Settings) : Float :=
  match settings.debounceDelay with
  | .float value => value
  | .int value => Float.ofInt value
  | .bool value => if value then 1.0 else 0.0
  | _ => 0.0

end Settings

/-- What a step of a sequence of changes to the active settings does. -/
inductive SettingsStep where
  | set (settings : Settings)
  | reset
  /-- Asks for the settings that a new registry takes: the given ones, or the active ones. -/
  | registry (settings : Option Settings)
  | raise (fault : Fault)
  /-- Steps under other settings; the settings before are active again afterwards. -/
  | within (settings : Settings) (steps : List SettingsStep)

/-- What a step has shown, with the settings active after it. -/
inductive SettingsReport where
  | entered (active : Settings)
  | set (active : Settings)
  | reset (active : Settings)
  | registry (answer : Settings) (active : Settings)
  /-- A block has ended, with the fault that left it if there was one. -/
  | left (fault : Option Fault) (active : Settings)

mutual

/-- Takes one step from the active settings: gives the reports, the settings active afterwards, and
the fault that the step raised. -/
def SettingsStep.run (active : Settings) :
    SettingsStep → List SettingsReport × Settings × Option Fault
  | .set settings => ([.set settings], settings, none)
  | .reset => ([.reset {}], {}, none)
  | .registry settings => ([.registry (settings.getD active) active], active, none)
  | .raise fault => ([], active, some fault)
  | .within settings steps =>
    let (reports, _, fault) := SettingsStep.runAll settings steps
    (.entered settings :: reports ++ [.left fault active], active, none)

/-- Takes steps one after the other until one raises a fault. -/
def SettingsStep.runAll (active : Settings) :
    List SettingsStep → List SettingsReport × Settings × Option Fault
  | [] => ([], active, none)
  | step :: steps =>
    match step.run active with
    | (reports, active, some fault) => (reports, active, some fault)
    | (reports, active, none) =>
      let (others, active, fault) := SettingsStep.runAll active steps
      (reports ++ others, active, fault)

end

end Highlighter
