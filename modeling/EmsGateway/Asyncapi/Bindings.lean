import EmsGateway.Base

/-!
The command bindings of `asyncapi::types` that the control path resolves. A south-side
protocol's own fields matter only to its wire client, so those bindings carry none; SunSpec
keeps the bit that tells a bit command from a setpoint.
-/

namespace EmsGateway.Asyncapi

structure ChildAllocation where
  deviceId : String
  operatingStateTopic : String
  stateOfChargeTopic : String
  powerMin : ℚ
  powerMax : ℚ
  deriving DecidableEq, Repr

structure DistributeBinding where
  allocationPolicy : String
  children : List ChildAllocation
  stateOfChargeFloorPercent : Option ℚ := none
  rampRatePerSec : Option ℚ := none
  hysteresisMargin : Option ℚ := none
  hysteresisDwellSecs : Option ℚ := none
  powerMin : Option ℚ := none
  powerMax : Option ℚ := none
  importLimitTopic : Option String := none
  exportLimitTopic : Option String := none
  activePowerTopic : Option String := none
  poiActivePowerTopic : Option String := none
  operatorReserveTopic : Option String := none
  siteCapacityWh : Option ℚ := none
  readinessSocPercent : Option ℚ := none
  rechargePowerW : Option ℚ := none
  deriving DecidableEq, Repr

structure CapChild where
  deviceId : String
  target : String
  minW : ℚ
  maxW : ℚ
  deriving DecidableEq, Repr

structure PowerCapBinding where
  children : List CapChild
  importLimitTopic : Option String := none
  exportLimitTopic : Option String := none
  poiActivePowerTopic : Option String := none
  hysteresisMargin : Option ℚ := none
  hysteresisDwellSecs : Option ℚ := none
  rampRatePerSec : Option ℚ := none
  deriving DecidableEq, Repr

inductive ProtocolBinding where
  | modbusTcp
  | snmp
  | redfish
  | dnp3Tcp
  | bacnetIp
  | bacnetSc
  | sunspec (bit : Option ℕ)
  | synthetic
  | distribute (binding : DistributeBinding)
  | powerCap (binding : PowerCapBinding)
  deriving DecidableEq, Repr

/-- Device to channel to binding, as resolved from the spec's `x-command-source`. -/
abbrev DeviceChannels := String → Option (String → Option ProtocolBinding)

end EmsGateway.Asyncapi
