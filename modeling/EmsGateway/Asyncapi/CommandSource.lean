import EmsGateway.Asyncapi.Bindings
import EmsGateway.Library.KeyedWrites

/-!
`x-command-source`, and the lookup map that `app::device_channels` projects from it. A device's
commands are listed, with their channel names, in the order in which the source's map happens to
iterate over them.
-/

namespace EmsGateway.Asyncapi

open EmsGateway.Library

structure CommandSource where
  verb : String
  target : String
  unit : String
  binding : ProtocolBinding
  deriving DecidableEq, Repr

/-- What is left of a spec's `x-command-source` once the devices that cannot run are skipped. -/
abbrev CommandSources := String → Option (List (String × CommandSource))

def CommandSource.key (source : CommandSource) : String := source.verb ++ "_" ++ source.target

/-- Of two commands with one key, the one collected later stays. -/
def deviceChannels (sources : CommandSources) : DeviceChannels := fun deviceId =>
  (sources deviceId).map fun commands =>
    applyWrites (fun _ => none) (commands.map fun command =>
      (command.2.key, command.2.binding))

def CommandSources.Lists (sources : CommandSources) (deviceId : String)
    (source : CommandSource) : Prop :=
  ∃ commands, sources deviceId = some commands ∧ source ∈ commands.map Prod.snd

theorem deviceChannels_lists {sources : CommandSources} {deviceId key : String}
    {bindings : String → Option ProtocolBinding} {binding : ProtocolBinding}
    (device : deviceChannels sources deviceId = some bindings)
    (found : bindings key = some binding) :
    ∃ source, sources.Lists deviceId source ∧ source.key = key ∧ source.binding = binding := by
  obtain ⟨commands, listed, rfl⟩ := Option.map_eq_some_iff.mp device
  rcases applyWrites_found found with empty | written
  · exact absurd empty (by simp)
  · obtain ⟨command, isListed, pair⟩ := List.mem_map.mp written
    obtain ⟨keyed, bound⟩ := Prod.mk.inj pair
    exact ⟨command.2, ⟨commands, listed, List.mem_map_of_mem isListed⟩, keyed, bound⟩

end EmsGateway.Asyncapi
