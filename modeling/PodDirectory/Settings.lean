import PodDirectory.Fault
import PodDirectory.Text.Blank
import PodDirectory.Text.Numeral
import PodDirectory.Text.Quoted

/-!
# Settings

What is watched and how chatty the logs are is set by five variables, all of which may be
left out. A switch is the word `true` or `false`, a number of seconds is a numeral of one
machine word, and blanks around either do not count. The namespace is taken as it stands,
blanks included; an empty one is as good as none.

The variables are read in a fixed order, and the first one that is wrong decides the
error. That the interval between statistics is not zero is checked when all of them have
been read.
-/

namespace PodDirectory

/-- A variable that the settings are read from. -/
inductive Variable where
  | watchNamespace
  | watchEndpointSlices
  | logNodeUpdates
  | initialSyncTimeout
  | statsInterval
deriving DecidableEq, Repr

/-- The name under which a variable is looked up. -/
def Variable.name : Variable → String
  | watchNamespace => "WATCH_NAMESPACE"
  | watchEndpointSlices => "WATCH_ENDPOINT_SLICES"
  | logNodeUpdates => "LOG_NODE_UPDATES"
  | initialSyncTimeout => "INITIAL_SYNC_TIMEOUT_SECS"
  | statsInterval => "STATS_INTERVAL_SECS"

/-- Why variables give no settings. -/
inductive SettingsError where
  | notASwitch (source : Variable) (value : String)
  | notSeconds (source : Variable) (cause : Text.NumeralError)
  | zeroStatsInterval
deriving DecidableEq, Repr

namespace SettingsError

/-- The wording of a settings error. A value that is no switch is quoted as it was given,
with its blanks. -/
def message : SettingsError → String
  | notASwitch source value =>
    source.name ++ " must be \"true\" or \"false\", got " ++ Text.quote value
  | notSeconds source cause => source.name ++ " is not a number of seconds: " ++ cause.message
  | zeroStatsInterval => Variable.statsInterval.name ++ " must be greater than zero"

/-- The fault that a settings error is reported as. -/
def fault (e : SettingsError) : Fault := .invalidSettings e.message

end SettingsError

/-- What is watched and what is logged. Times are in seconds. -/
structure Settings where
  /-- The namespace whose pods and endpoint slices are watched; none stands for all. -/
  watchedNamespace : Option String := none
  watchEndpointSlices : Bool := true
  logNodeUpdates : Bool := false
  /-- How long to wait for the first listings; none stands for as long as it takes. -/
  initialSyncTimeout : Option Nat := none
  statsInterval : Nat := 60
  statsInterval_pos : 0 < statsInterval := by decide
deriving DecidableEq, Repr

namespace Settings

/-- Where the value of a variable is looked up, by its name. -/
abbrev Lookup := String → Option String

/-- The value of a switch: its fallback if it is not set. -/
def readSwitch (lookup : Lookup) (source : Variable) (fallback : Bool) :
    Except SettingsError Bool :=
  match lookup source.name with
  | none => .ok fallback
  | some value =>
    let word := Text.trim value.toList
    if word = "true".toList then .ok true
    else if word = "false".toList then .ok false
    else .error (.notASwitch source value)

/-- A number of seconds, if it is set. -/
def readSeconds (lookup : Lookup) (source : Variable) : Except SettingsError (Option Nat) :=
  match lookup source.name with
  | none => .ok none
  | some value =>
    match Text.readNumeral (Text.trim value.toList) with
    | .ok seconds => .ok (some seconds)
    | .error cause => .error (.notSeconds source cause)

/-- **Reads the settings** from wherever variables are looked up. -/
def read (lookup : Lookup) : Except SettingsError Settings := do
  let watchEndpointSlices ← readSwitch lookup .watchEndpointSlices true
  let logNodeUpdates ← readSwitch lookup .logNodeUpdates false
  let initialSyncTimeout ← readSeconds lookup .initialSyncTimeout
  let statsInterval := (← readSeconds lookup .statsInterval).getD 60
  if h : 0 < statsInterval then
    return {
      watchedNamespace := (lookup Variable.watchNamespace.name).filter (· ≠ "")
      watchEndpointSlices, logNodeUpdates, initialSyncTimeout, statsInterval
      statsInterval_pos := h }
  else
    throw .zeroStatsInterval

/-- Reads the settings from variables whose values are bytes. Bytes that are no text count
as a variable that is not set. -/
def ofEnvironment (bytes : String → Option ByteArray) : Except SettingsError Settings :=
  read fun name => (bytes name).bind String.fromUTF8?

end Settings

end PodDirectory
