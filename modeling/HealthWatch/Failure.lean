import HealthWatch.Bytes
import HealthWatch.IoFault
import HealthWatch.Json.Fault
import HealthWatch.Span

/-! # Failures

Every way in which an operation can fail is a constructor that holds its causes;
`Failure.message` puts it into words. The types for the parts of the supervisor come first,
`Failure` joins them.
-/

namespace HealthWatch

/-- Why a healthcheck is refused. -/
inductive HealthcheckFault
  | emptyTest
  | emptyProgram
  /-- The first argument that holds a NUL. -/
  | nulInArgument (argument : String)
  | outOfBounds (field : String) (low high value : Int)
  /-- A number inside its bounds that is no 32-bit word. -/
  | outOfRange (field : String) (value : Int)
  /-- A test without a form or without an argument. -/
  | tooFewParts (count : Nat)
  /-- A shell test with another number of commands than one. -/
  | notOneCommand (count : Nat)
  | emptyCommand
  | commandTooLong (bytes limit : Nat)
  | unknownForm (form : String)
  /-- Neither a bundle nor an annotation is given. -/
  | noSource
  deriving DecidableEq, Repr

/-- A refusal of a healthcheck in words. -/
def HealthcheckFault.message : HealthcheckFault → String
  | emptyTest => "test command must not be empty"
  | emptyProgram => "test program must not be empty"
  | nulInArgument argument => "test argument " ++ Text.quote argument ++ " contains a NUL byte"
  | outOfBounds field low high value =>
      field ++ " must be between " ++ toString low ++ " and " ++ toString high ++ ", got " ++
        toString value
  | outOfRange field value => field ++ " out of range: " ++ toString value
  | tooFewParts count =>
      "test needs a discriminator and at least one argument, got " ++ toString count ++
        " element(s)"
  | notOneCommand count => "CMD-SHELL takes exactly one command string, got " ++ toString count
  | emptyCommand => "CMD-SHELL command must not be empty"
  | commandTooLong bytes limit =>
      "CMD-SHELL command is " ++ toString bytes ++ " bytes, limit is " ++ toString limit
  | unknownForm form =>
      "unsupported test discriminator '" ++ form ++ "' (expected CMD or CMD-SHELL)"
  | noSource => "either --bundle or --annotation is required"

/-- Why a bundle's configuration is refused. -/
inductive BundleFault
  | notJson (error : Json.Error)
  | rootNotObject
  | annotationsNotObject
  | entryNotString (key : String)
  deriving DecidableEq, Repr

/-- A refusal of a bundle's configuration in words. -/
def BundleFault.message : BundleFault → String
  | notJson error => error.message
  | rootNotObject => "root is not an object"
  | annotationsNotObject => "annotations is not an object"
  | entryNotString key => "annotation '" ++ key ++ "' is not a string"

/-- Why a settings document holds no settings. -/
inductive SettingsFault
  /-- The document is not well formed. -/
  | malformed
  /-- The document is well formed and does not hold settings. -/
  | mismatch (detail : Mismatch)
  deriving DecidableEq, Repr

/-- What is known of the fault of a settings document. -/
def SettingsFault.detail? : SettingsFault → Option String
  | malformed => none
  | mismatch detail => some detail.message

/-- The bound that settings, or the descriptor given for the channel, do not keep. -/
inductive SettingsViolation
  | emptyRuntime
  | emptyAnnotationKey
  | stderrLimit (value : Nat)
  | reportTimeout (value : Nat)
  | emptyQueue
  | descriptorNotOpen (descriptor : Int) (fault : IoFault)
  deriving DecidableEq, Repr

/-- A violation in words. -/
def SettingsViolation.message : SettingsViolation → String
  | emptyRuntime => "runtime must not be empty"
  | emptyAnnotationKey => "annotation must not be empty"
  | stderrLimit value => "stderr_limit must be between 1 and 65536, got " ++ toString value
  | reportTimeout value => "report_timeout_ms must be between 1 and 60000, got " ++ toString value
  | emptyQueue => "report_queue must be at least 1"
  | descriptorNotOpen descriptor fault =>
      "sync pipe fd " ++ toString descriptor ++ " is not open: " ++ fault.message

/-- Why a timer does not start. -/
inductive TimerFault
  | disabled
  | alreadyActive
  | registryClosed
  | stillStopping
  deriving DecidableEq, Repr

/-- A refusal to start a timer in words. -/
def TimerFault.message : TimerFault → String
  | disabled => "healthcheck is disabled or has no test command"
  | alreadyActive => "timer is already active"
  | registryClosed => "healthcheck registry is shut down"
  | stillStopping => "previous timer is still stopping"

/-- Why a probe was not run or not observed. -/
inductive ProbeFault
  | emptyCommand
  /-- The place of the first NUL byte of the first argument that holds one. -/
  | nulInArgument (place : Nat)
  /-- The state of the child could not be read. -/
  | unobserved (reason : String)
  deriving DecidableEq, Repr

/-- A fault of a probe in words. -/
def ProbeFault.message : ProbeFault → String
  | emptyCommand => "empty command"
  | nulInArgument place =>
      "invalid argument: nul byte found in provided data at position: " ++ toString place
  | unobserved reason => "waitpid failed: " ++ reason

/-- Why an operation failed. -/
inductive Failure
  | io (fault : IoFault)
  | settingsUnreadable (path : Bytes) (fault : IoFault)
  | settingsMalformed (fault : SettingsFault)
  | settingsInvalid (violation : SettingsViolation)
  | bundleUnreadable (path : Bytes) (fault : IoFault)
  | bundleInvalid (path : Bytes) (fault : BundleFault)
  | annotationMalformed (error : Json.Error)
  | healthcheckInvalid (fault : HealthcheckFault)
  | alreadyRegistered (container : String)
  | timerNotStarted (container : String) (fault : TimerFault)
  | probeNotRun (fault : ProbeFault)
  /-- The queue stayed full for the whole time that a report may wait. -/
  | reportRefused (waited : Span)
  | channelClosed
  deriving DecidableEq, Repr

/-- A failure in words. -/
def Failure.message : Failure → String
  | io fault => "IO error: " ++ fault.message
  | settingsUnreadable path fault =>
      "Failed to read config file '" ++ path.display ++ "': " ++ fault.message
  | settingsMalformed _ => "Failed to parse config"
  | settingsInvalid violation => "Config validation failed: " ++ violation.message
  | bundleUnreadable path fault =>
      "Failed to read bundle config '" ++ path.display ++ "': " ++ fault.message
  | bundleInvalid path fault =>
      "Invalid bundle config '" ++ path.display ++ "': " ++ fault.message
  | annotationMalformed error => "Failed to parse healthcheck annotation: " ++ error.message
  | healthcheckInvalid fault => "Invalid healthcheck: " ++ fault.message
  | alreadyRegistered container =>
      "Healthcheck timer for container '" ++ container ++ "' is already registered"
  | timerNotStarted container fault =>
      "Failed to start healthcheck timer for container '" ++ container ++ "': " ++ fault.message
  | probeNotRun fault => "Failed to run probe: " ++ fault.message
  | reportRefused waited => "Failed to report status: queue still full after " ++ waited.text
  | channelClosed => "Status channel is closed"

end HealthWatch
