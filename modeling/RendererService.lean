import RendererService.Lib.Transition
import RendererService.Lib.Potential
import RendererService.Lib.Table
import RendererService.Lib.Log
import RendererService.Lib.Decimal
import RendererService.Lib.Dictionary
import RendererService.Lib.Changes
import RendererService.Lib.Url
import RendererService.Lib.Numeral
import RendererService.Lib.Extremes
import RendererService.Lib.Fields
import RendererService.Model.Types
import RendererService.Model.World
import RendererService.Model.Task
import RendererService.Model.TaskProcessor
import RendererService.Model.ServiceTask
import RendererService.Model.HostService
import RendererService.Model.Device
import RendererService.Model.Upnp
import RendererService.Model.Service
import RendererService.Model.Schedules
import RendererService.Model.Values
import RendererService.Model.Properties
import RendererService.Model.Introspection
import RendererService.Model.Log
import RendererService.Model.Settings
import RendererService.Processor.Commands
import RendererService.Processor.Callbacks
import RendererService.Processor.Effects
import RendererService.Processor.Steps
import RendererService.Processor.Invariant
import RendererService.Processor.Runs
import RendererService.Processor.Frames
import RendererService.Processor.Operations
import RendererService.Processor.Accounting
import RendererService.Processor.Logs
import RendererService.Processor.Order
import RendererService.Processor.Acceptance
import RendererService.Processor.Quitting
import RendererService.Processor.Footprint
import RendererService.Processor.Locality
import RendererService.Processor.Cancellation
import RendererService.Processor.Visits
import RendererService.Service.Devices
import RendererService.Service.Attachments
import RendererService.Service.Deletion
import RendererService.Service.Renderers
import RendererService.Service.Announcements
import RendererService.Service.Registry
import RendererService.Service.Servers
import RendererService.Service.Aside
import RendererService.Service.Holders
import RendererService.Service.Readers
import RendererService.Service.Safety
import RendererService.Service.PushHost
import RendererService.Service.FileRequests
import RendererService.Service.Clients
import RendererService.Service.Departures
import RendererService.Service.Connections
import RendererService.Service.Subscriptions
import RendererService.Service.Calm
import RendererService.Service.ServiceSteps
import RendererService.Service.Workload
import RendererService.Service.Rest
import RendererService.Service.Preferred
import RendererService.Service.Registrations
import RendererService.Service.Resubscription
import RendererService.Service.Wiring
import RendererService.Service.Losses
import RendererService.Service.QueueKeys
import RendererService.Properties.Changes
import RendererService.Properties.Callbacks
import RendererService.Properties.Metadata
import RendererService.Properties.Signals
import RendererService.Properties.Mirror
import RendererService.Properties.Capabilities
import RendererService.Properties.Volume
import RendererService.Properties.VolumeEvents
import RendererService.Properties.Protocols
import RendererService.Properties.Targets
import RendererService.Properties.Speeds
import RendererService.Properties.Numbers
import RendererService.Properties.Rate
import RendererService.Properties.Durations
import RendererService.Properties.Limits
import RendererService.Properties.Reads
import RendererService.Properties.Conformance
import RendererService.Service.Tasks
import RendererService.Service.Invocations
import RendererService.Service.Invariant
import RendererService.Service.Callbacks
import RendererService.Service.Processing
import RendererService.Service.Discovery
import RendererService.Service.Inputs
import RendererService.Service.Runs
import RendererService.Service.Refinement
import RendererService.Service.Cancellations
import RendererService.Service.Shutdown
import RendererService.Service.Ownership
import RendererService.Service.Progress
import RendererService.Service.Stalls
import RendererService.Service.Settling
import RendererService.Service.Outstanding
import RendererService.Host.Operations
import RendererService.Host.Files
import RendererService.Host.Shape
import RendererService.Host.Hostings
import RendererService.Host.Urls
import RendererService.Host.Naming
import RendererService.Host.Locators
import RendererService.Host.Balance
import RendererService.Host.Transfers
import RendererService.Settings.Levels
import RendererService.Settings.Reloads
import RendererService.Lib.Roster
import RendererService.Service.Addresses
import RendererService.Service.Enrolment
import RendererService.Service.Network
