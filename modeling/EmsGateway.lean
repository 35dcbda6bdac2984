import EmsGateway.Library.Runs
import EmsGateway.Library.DelayedIntegrator
import EmsGateway.Envelope.TighteningOnset
import EmsGateway.Dispatch.Distribute
import EmsGateway.Dispatch.Requested
import EmsGateway.Dispatch.CommandIdentity
import EmsGateway.Envelope.AntiWindup
import EmsGateway.Envelope.LandedWrites
import EmsGateway.Envelope.Handoff
import EmsGateway.Envelope.Energize
import EmsGateway.Envelope.Shed
import EmsGateway.Envelope.FleetCap
import EmsGateway.Dispatch.Execute
import EmsGateway.Envelope.Writes
import EmsGateway.Loto.Lockout
import EmsGateway.Sunspec.Heartbeat
import EmsGateway.DerDispatch.SiteDistributionCore
import EmsGateway.DerDispatch.Capacity
import EmsGateway.DerDispatch.ModuleCommand
import EmsGateway.DerDispatch.EventRelease
import EmsGateway.DerDispatch.OperatorCommands
import EmsGateway.Library.Rounding
import EmsGateway.Library.BinaryFloat
import EmsGateway.Library.Words
import EmsGateway.Modbus.Codec
import EmsGateway.Sunspec.Discover
import EmsGateway.Sunspec.Setpoints
import EmsGateway.Dispatch.FairShare
import EmsGateway.Envelope.PlannedWrites
import EmsGateway.App.SpecSwap
import EmsGateway.Mqtt.Subscriptions
import EmsGateway.Loto.Refresher
import EmsGateway.App.CacheViews
import EmsGateway.App.Panics
import EmsGateway.Sunspec.Addresses
import EmsGateway.Envelope.HeldApproach
import EmsGateway.Library.History
import EmsGateway.Envelope.Dwell
import EmsGateway.Envelope.Recovery
import EmsGateway.Envelope.PoiGate
import EmsGateway.Dispatch.AllocationOrder
import EmsGateway.DerDispatch.ShareOrder
import EmsGateway.DerDispatch.ShareRounds
import EmsGateway.Envelope.ShedGrid
import EmsGateway.Envelope.ShedDirection
import EmsGateway.Envelope.ShedDwell
import EmsGateway.Envelope.CapRange
import EmsGateway.Modbus.Counter
import EmsGateway.Redfish.Write
import EmsGateway.Library.Reservoir
import EmsGateway.Envelope.ReserveFloor
import EmsGateway.Library.Delimited
import EmsGateway.Samples.RoundTrip
import EmsGateway.Library.Spacing
import EmsGateway.Poller.Schedule
import EmsGateway.Poller.Sharing
import EmsGateway.Synthetic.Freshness
import EmsGateway.Synthetic.Rollup
import EmsGateway.Synthetic.StaleLimits
import EmsGateway.App.TaskSets
import EmsGateway.Library.Memo
import EmsGateway.Modbus.WriteSessions
import EmsGateway.Redfish.Clients
import EmsGateway.Library.Retry
import EmsGateway.Modbus.Transport
import EmsGateway.Dispatch.Acks
import EmsGateway.Library.Journal
import EmsGateway.Sunspec.ModelCache
