import Gneiss.Library.Buffers
import Gneiss.Library.Chunks
import Gneiss.Library.Fifo
import Gneiss.Library.Runs
import Gneiss.Library.Descriptors
import Gneiss.Library.Registry
import Gneiss.Library.Checked
import Gneiss.Library.Slots
import Gneiss.Library.BlockDevice
import Gneiss.Platform.Session
import Gneiss.Platform.Packet
import Gneiss.Platform.PacketChecks
import Gneiss.Platform.Syscall
import Gneiss.Platform.Views
import Gneiss.Platform.Labels
import Gneiss.Broker.Sxml
import Gneiss.Broker.State
import Gneiss.Broker.Lookup
import Gneiss.Broker.Message
import Gneiss.Broker.Startup
import Gneiss.Broker.Main
import Gneiss.Broker.Effects
import Gneiss.Broker.RequestEffects
import Gneiss.Broker.StartupRuns
import Gneiss.Broker.Ownership
import Gneiss.Broker.Attribution
import Gneiss.Broker.Identity
import Gneiss.Broker.Routing
import Gneiss.Broker.Leaks
import Gneiss.Broker.Exchanges
import Gneiss.Broker.Sealing
import Gneiss.Broker.Admission
import Gneiss.Broker.Authority
import Gneiss.Broker.Replies
import Gneiss.Broker.Progress
import Gneiss.Broker.Reception
import Gneiss.Broker.Isolation
import Gneiss.Broker.Selection
import Gneiss.Broker.Configuration
import Gneiss.Broker.Launches
import Gneiss.Log.Client
import Gneiss.Log.Server
import Gneiss.Log.Reuse
import Gneiss.Timer.Client
import Gneiss.Message.Channel
import Gneiss.Message.Server
import Gneiss.Component.State
import Gneiss.Component.Operations
import Gneiss.Component.Soundness
import Gneiss.Component.Registrations
import Gneiss.Component.Requests
import Gneiss.Component.EventLoop
import Gneiss.Component.Disconnect
import Gneiss.Component.Dispatch
import Gneiss.Component.Clients
import Gneiss.Component.Atomicity
import Gneiss.Component.Slots
import Gneiss.Component.Errors
import Gneiss.Component.Mappings
import Gneiss.Component.Main
import Gneiss.Component.Handshake
import Gneiss.Genode.MessageServer
import Gneiss.Genode.BlockServer
import Gneiss.Genode.BlockClient
import Gneiss.Genode.LogClient
import Gneiss.Genode.MessageCalls
import Gneiss.Genode.BlockUpdates
import Gneiss.Genode.BlockAllocation
import Gneiss.Genode.RamDisk
import Gneiss.Genode.RamDiskEvent
import Gneiss.Genode.BlockProxy
import Gneiss.Genode.BlockProxyEntries
import Gneiss.Genode.BlockFlights
import Gneiss.Genode.BlockProxyTurns
import Gneiss.Genode.BlockProxyRuns
import Gneiss.Genode.BlockTest
import Gneiss.Genode.BlockTestRuns
import Gneiss.Genode.BlockTestFinish
import Gneiss.Genode.SessionRoot
import Gneiss.Genode.SessionServers
import Gneiss.Genode.SessionRuns
import Gneiss.Genode.LogProxy
