import EmsGateway.Asyncapi.Bindings
import EmsGateway.Envelope.ControlLawCore

/-!
`envelope::config`: what a `distribute` binding says about its envelope guard. The guard is
whole or absent; one missing field makes the binding a plain distribute.
-/

namespace EmsGateway.Envelope

open EmsGateway.Asyncapi

/-- `Duration::from_secs_f64`: the nearest nanosecond, ties to even. A negative argument panics
in the source and is taken as zero here. -/
def durationFromSecs (seconds : ℚ) : Duration :=
  let nanos := seconds * nanosPerSec
  let below := ⌊nanos⌋₊
  let rest := nanos - below
  if rest < 1 / 2 then below
  else if 1 / 2 < rest then below + 1
  else if below % 2 = 0 then below else below + 1

structure EnvelopeGuardConfig where
  control : EnvelopeConfig
  powerMin : ℚ
  powerMax : ℚ
  importLimitTopic : String
  exportLimitTopic : String
  activePowerTopic : String
  poiActivePowerTopic : Option String
  deriving DecidableEq, Repr

def envelopeGuardConfig (d : DistributeBinding) : Option EnvelopeGuardConfig := do
  let rampRatePerSec ← d.rampRatePerSec
  let hysteresisMargin ← d.hysteresisMargin
  let dwellSecs ← d.hysteresisDwellSecs
  let powerMin ← d.powerMin
  let powerMax ← d.powerMax
  let importLimitTopic ← d.importLimitTopic
  let exportLimitTopic ← d.exportLimitTopic
  let activePowerTopic ← d.activePowerTopic
  return {
    control := {
      rampRatePerSec := rampRatePerSec
      hysteresisMargin := hysteresisMargin
      hysteresisDwell := durationFromSecs dwellSecs }
    powerMin := powerMin
    powerMax := powerMax
    importLimitTopic := importLimitTopic
    exportLimitTopic := exportLimitTopic
    activePowerTopic := activePowerTopic
    poiActivePowerTopic := d.poiActivePowerTopic }

structure EnvelopeTaskConfig where
  deviceId : String
  channelKey : String
  guard : Option EnvelopeGuardConfig
  binding : ProtocolBinding
  deriving DecidableEq, Repr

end EmsGateway.Envelope
