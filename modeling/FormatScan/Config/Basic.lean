import FormatScan.Config.Policy
import FormatScan.Pattern
import FormatScan.ScanError
/-!
What a run is told: the engine, the number of workers and the limits.
-/

namespace FormatScan

def defaultMaxFileSize : Nat := 512 * 1024 * 1024

structure ScanConfig where
  engine : EngineKind := .twoPhase
  workers : Nat
  /-- Files with more bytes than this are skipped. -/
  maxFileSize : Nat := defaultMaxFileSize
  anchoring : Anchoring := .start
  container : ContainerPolicy := {}
deriving DecidableEq

/-- The first fault of a configuration, if there is one. -/
def ScanConfig.validate (c : ScanConfig) : Except ScanError Unit :=
  if c.workers = 0 then .error (.invalidConfig .noWorkers)
  else if c.maxFileSize = 0 then .error (.invalidConfig .noFileSize)
  else if c.engine.isAvailable then .ok ()
  else .error (.engineUnavailable c.engine)

end FormatScan
