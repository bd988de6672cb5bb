import SharedTensor.Config

/-!
# The library as a whole

Its version, and how its log is set up.
-/

namespace SharedTensor

/-- The version of the library. -/
def version : String := "0.1.0"

/-- How much is written to the log. -/
inductive LogLevel
  | info
  | trace
  deriving DecidableEq, Inhabited

/-- Verbose logging writes everything. -/
def Config.logLevel (c : Config) : LogLevel :=
  if c.development.verboseLogging then .trace else .info

/-- The log in use once logging has been set up with a configuration. A log that is in use already
stays so, and setting up logging never fails. -/
def startLogging (inUse : Option LogLevel) (c : Config) : Except Fault LogLevel :=
  .ok (inUse.getD c.logLevel)

end SharedTensor
