import DesiredState.Backend
import DesiredState.Config
import DesiredState.LogFilter
import DesiredState.Text.Quoted

/-! Which events a process logs. The environment may hold a filter that takes the place of the
configured one, and only one filter is installed. -/
namespace DesiredState

/-- Why logging could not be set up. -/
inductive LoggingError where
  | invalidFilter (filter : String) (cause : FilterError)
  | alreadyInstalled
  deriving DecidableEq

def LoggingError.message : LoggingError → String
  | invalidFilter filter cause =>
    "logging setup failed: invalid filter " ++ Text.quote filter ++ ": " ++ cause.message
  | alreadyInstalled =>
    "logging setup failed: a global default trace dispatcher has already been set"

namespace LoggingConfig

def ownFilter (config : LoggingConfig) : Except LoggingError LogFilter :=
  (LogFilter.ofText config.filter).mapError (.invalidFilter config.filter)

/-- The filter that counts: the one in the environment if it is valid, else the configured one. -/
def activeFilter (environment? : Option String) (config : LoggingConfig) :
    Except LoggingError LogFilter :=
  match environment?.map LogFilter.ofText with
  | some (.ok f) => .ok f
  | _ => config.ownFilter

/-- Installs the filter that counts, unless one is installed, and tells so. -/
def install (environment? : Option String) (config : LoggingConfig)
    (installed? : Option LogFilter) : Reply LoggingError (Option LogFilter) :=
  match config.activeFilter environment?, installed? with
  | .error e, _ => { state := installed?, error? := some e }
  | .ok _, some _ => { state := installed?, error? := some .alreadyInstalled }
  | .ok f, none => { state := some f, events := [.installed config.filter] }

end LoggingConfig

namespace Logging

def target : String := "inventory_store::logging"

/-- The events about logging that an installed filter lets through. -/
def passed (installed? : Option LogFilter) (events : List Event) : List Event :=
  events.filter fun e => installed?.any (·.admits target e.level)

example : (passed (LogFilter.ofText "inventory_store=debug").toOption
    [.installed "inventory_store=debug"]).map Event.line =
    ["DEBUG Tracing initialized (filter: inventory_store=debug)"] := by decide +kernel
example : ((LoggingConfig.activeFilter (some "x=nope") {}).toOption.map LogFilter.display) =
    some "info" := by decide +kernel

end Logging
end DesiredState
